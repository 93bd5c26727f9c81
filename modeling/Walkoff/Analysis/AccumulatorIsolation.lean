import Mathlib
import Walkoff.Program.CachedAccumulators

/-!
# Each execution has a dictionary of its own

All accumulators lie in one cache. The keys of an accumulator begin with its prefix, and no text has
the prefixes of two; what the cache has under a prefix is the dictionary of that execution. An
operation keeps the dictionaries of the others and shows what its own shows (`serve_holds`), so in
every run each accumulator behaves like a dictionary that nobody else uses
(`accumulators_isolated`).
-/

set_option autoImplicit false

namespace Walkoff.Analysis

open Walkoff.Library Walkoff.Model Walkoff.Program

/-! ## Dictionaries -/

namespace Dictionary

variable {κ V : Type} (str : κ → String)

/-- What an operation shows of a dictionary that is keyed by texts, and what it leaves. -/
def serve : AccumulatorOp κ V → OrderedDict String V →
    Except Exn (Observed V) × OrderedDict String V
  | .set key value, d => (.ok .nothing, d.set (str key) value)
  | .get key, d =>
    match d.get? (str key) with
    | some value => (.ok (.value value), d)
    | none => (.error .keyError, d)
  | .delete key, d =>
    match d.get? (str key) with
    | some _ => (.ok .nothing, d.pop (str key))
    | none => (.error .keyError, d)
  | .contains key, d => (.ok (.found (d.get? (str key)).isSome), d)
  | .update args kwargs, d =>
    (.ok .nothing, d.update ((args.flatten ++ kwargs).map fun item => (str item.1, item.2)))
  | .pop key more, d =>
    if 2 ≤ more.length then (.error .typeError, d) else
      match d.get? (str key) with
      | some value => (.ok (.value value), d.pop (str key))
      | none =>
        match more with
        | value :: _ => (.ok (.value value), d)
        | [] => (.error .keyError, d)
  | .len _, d => (.ok (.length d.length), d)
  | .clear _, _ => (.ok .nothing, [])
  | .keys _, d => (.ok (.keys d.keys), d)
  | .values _, d => (.ok (.values (d.map Prod.snd)), d)
  | .items _, d => (.ok (.items d), d)

/-- Reading a key of a dictionary finds its value or raises `KeyError`. -/
theorem serve_get (key : κ) (d : OrderedDict String V) : serve str (.get key) d =
    match d.get? (str key) with
    | some value => (.ok (.value value), d)
    | none => (.error .keyError, d) := rfl

/-- Deleting a key takes it out or raises `KeyError`. -/
theorem serve_delete (key : κ) (d : OrderedDict String V) : serve str (.delete key) d =
    match d.get? (str key) with
    | some _ => (.ok .nothing, d.pop (str key))
    | none => (.error .keyError, d) := rfl

/-- An update sets the items of its arguments in their order, and those given by name last. -/
theorem serve_update (args : List (List (κ × V))) (kwargs : List (κ × V))
    (d : OrderedDict String V) : serve str (.update args kwargs) d =
      (.ok .nothing, d.update ((args.flatten ++ kwargs).map fun item => (str item.1, item.2))) :=
  rfl

/-- Popping a key takes it out, or falls back on the default, or raises. -/
theorem serve_pop (key : κ) (more : List V) (d : OrderedDict String V) :
    serve str (.pop key more) d =
      if 2 ≤ more.length then (.error .typeError, d) else
        match d.get? (str key) with
        | some value => (.ok (.value value), d.pop (str key))
        | none =>
          match more with
          | value :: _ => (.ok (.value value), d)
          | [] => (.error .keyError, d) := rfl

/-- What the operations of a run show of a dictionary. -/
def serveAll : List (AccumulatorOp κ V) → OrderedDict String V → List (Except Exn (Observed V))
  | [], _ => []
  | op :: ops, d => (serve str op d).1 :: serveAll ops (serve str op d).2

end Dictionary

/-- What an accumulator shows agrees with what a dictionary does: the keys are those that are
extracted, and they may come in another order. -/
inductive AgreesWith {V : Type} : Except Exn (Observed V) → Except Exn (Observed V) → Prop
  | same (shown : Except Exn (Observed V)) : AgreesWith shown shown
  | keys {ks ks' : List String}
      (h : (ks.map ExternallyCachedAccumulator.extractKey).Perm ks') :
      AgreesWith (.ok (.keys ks)) (.ok (.keys ks'))
  | values {vs vs' : List V} (h : vs.Perm vs') : AgreesWith (.ok (.values vs)) (.ok (.values vs'))
  | items {is is' : List (String × V)}
      (h : (is.map fun item =>
        (ExternallyCachedAccumulator.extractKey item.1, item.2)).Perm is') :
      AgreesWith (.ok (.items is)) (.ok (.items is'))

/-! ## Templates -/

/-- How a character is written in a template. -/
def written (c : Char) : List Char :=
  if c = '\x7b' ∨ c = '\x7d' then [c, c] else [c]

/-- A character occurs in what is written for it. -/
theorem mem_written (c : Char) : c ∈ written c := by
  unfold written
  split_ifs
  · exact List.mem_cons_self
  · exact List.mem_cons_self

section Templates

variable (value : List Char)

/-- Formatting copies a character that is no brace. -/
theorem formatFrom_plain {c : Char} (hopen : c ≠ '\x7b') (hclose : c ≠ '\x7d') (filled : Bool)
    (cs : List Char) :
    PyFormat.formatFrom value filled (c :: cs) =
      (PyFormat.formatFrom value filled cs).map (c :: ·) := by
  rw [PyFormat.formatFrom.eq_def]
  split <;> simp_all

/-- The same of a text without braces. -/
theorem formatFrom_append {text : List Char} (h : ∀ c ∈ text, c ≠ '\x7b' ∧ c ≠ '\x7d')
    (filled : Bool) (cs : List Char) :
    PyFormat.formatFrom value filled (text ++ cs) =
      (PyFormat.formatFrom value filled cs).map (text ++ ·) := by
  induction text with
  | nil => simp
  | cons c text ih =>
    obtain ⟨⟨hopen, hclose⟩, htext⟩ := List.forall_mem_cons.mp h
    rw [List.cons_append, formatFrom_plain value hopen hclose, ih htext, Option.map_map]
    rfl

/-- A brace before a character that is none cannot be formatted. -/
theorem formatFrom_stray {c d : Char} (hc : c = '\x7b' ∨ c = '\x7d') (hopen : d ≠ '\x7b')
    (hclose : d ≠ '\x7d') (filled : Bool) (cs : List Char) :
    PyFormat.formatFrom value filled (c :: d :: cs) = none := by
  rw [PyFormat.formatFrom.eq_def]
  rcases hc with rfl | rfl
  · split <;> grind
  · split <;> grind

/-- The end of the template of an accumulator. -/
def keyField : List Char :=
  [':', '\x7b', '\x7d']

/-- A second field raises. -/
theorem formatFrom_filled : ∀ cs : List Char,
    PyFormat.formatFrom value true (cs ++ keyField) = none
  | [] => rfl
  | [c] => by
    by_cases hc : c = '\x7b' ∨ c = '\x7d'
    · exact formatFrom_stray value hc (by decide) (by decide) true _
    · obtain ⟨hopen, hclose⟩ := not_or.mp hc
      rw [List.singleton_append, formatFrom_plain value hopen hclose]
      rfl
  | c :: d :: cs => by
    have hcs := formatFrom_filled cs
    have hdcs := formatFrom_filled (d :: cs)
    rw [List.cons_append, List.cons_append] at *
    by_cases hc : c = '\x7b' ∨ c = '\x7d'
    · by_cases hd : d = '\x7b' ∨ d = '\x7d'
      · rcases hc with rfl | rfl
        · rcases hd with rfl | rfl
          · rw [PyFormat.formatFrom, hcs]
            rfl
          · rw [PyFormat.formatFrom, if_pos rfl]
        · rcases hd with rfl | rfl
          · rfl
          · rw [PyFormat.formatFrom, hcs]
            rfl
      · obtain ⟨hopen, hclose⟩ := not_or.mp hd
        exact formatFrom_stray value hc hopen hclose true _
    · obtain ⟨hopen, hclose⟩ := not_or.mp hc
      rw [formatFrom_plain value hopen hclose, hdcs]
      rfl

end Templates

/-- What stands before the field is written as in a template, and can then be filled, or it cannot
be filled at all. -/
def WrittenOrRaises (cs : List Char) : Prop :=
  (∃ name : List Char, cs = name.flatMap written ∧
    ∀ value, PyFormat.formatFrom value false (cs ++ keyField) = some (name ++ ':' :: value)) ∨
  ∀ value, PyFormat.formatFrom value false (cs ++ keyField) = none

/-- A character the formatting copies can be put before a template. -/
theorem WrittenOrRaises.cons {c : Char} {cs : List Char} (h : WrittenOrRaises cs)
    (hstep : ∀ value, PyFormat.formatFrom value false (written c ++ cs ++ keyField) =
      (PyFormat.formatFrom value false (cs ++ keyField)).map (c :: ·)) :
    WrittenOrRaises (written c ++ cs) := by
  rcases h with ⟨name, rfl, hname⟩ | hnone
  · refine .inl ⟨c :: name, rfl, fun value => ?_⟩
    rw [hstep, hname]
    rfl
  · refine .inr fun value => ?_
    rw [hstep, hnone]
    rfl

/-- Every text before the field is written as in a template, or cannot be filled. -/
theorem writtenOrRaises : ∀ cs : List Char, WrittenOrRaises cs
  | [] => .inl ⟨[], rfl, fun value => by simp [keyField, PyFormat.formatFrom]⟩
  | [c] => by
    by_cases hc : c = '\x7b' ∨ c = '\x7d'
    · exact .inr fun value => formatFrom_stray value hc (by decide) (by decide) false _
    · have hcons := (writtenOrRaises []).cons (c := c) fun value => ?_
      · rwa [written, if_neg hc] at hcons
      · rw [written, if_neg hc]
        exact formatFrom_plain value (not_or.mp hc).1 (not_or.mp hc).2 false _
  | c :: d :: cs => by
    have hcs := writtenOrRaises cs
    have hdcs := writtenOrRaises (d :: cs)
    by_cases hc : c = '\x7b' ∨ c = '\x7d'
    · by_cases hd : d = '\x7b' ∨ d = '\x7d'
      · rcases hc with rfl | rfl
        · rcases hd with rfl | rfl
          · exact hcs.cons (c := '\x7b') fun value => rfl
          · refine .inr fun value => ?_
            show (PyFormat.formatFrom value true (cs ++ keyField)).map (value ++ ·) = none
            rw [formatFrom_filled]
            rfl
        · rcases hd with rfl | rfl
          · exact .inr fun value => rfl
          · exact hcs.cons (c := '\x7d') fun value => rfl
      · obtain ⟨hopen, hclose⟩ := not_or.mp hd
        exact .inr fun value => formatFrom_stray value hc hopen hclose false _
    · have hcons := hdcs.cons (c := c) fun value => ?_
      · rwa [written, if_neg hc] at hcons
      · rw [written, if_neg hc]
        exact formatFrom_plain value (not_or.mp hc).1 (not_or.mp hc).2 false _

/-! ## Prefixes -/

/-- Texts without a separator are determined by what stands before the first one. -/
theorem append_cons_inj {c : Char} {xs ys : List Char} (hxs : c ∉ xs) (hys : c ∉ ys)
    {as bs : List Char} (h : xs ++ c :: as = ys ++ c :: bs) : xs = ys ∧ as = bs := by
  induction xs generalizing ys with
  | nil =>
    cases ys with
    | nil => exact ⟨rfl, (List.cons.inj h).2⟩
    | cons d ys => exact absurd ((List.cons.inj h).1 ▸ List.mem_cons_self) hys
  | cons d xs ih =>
    cases ys with
    | nil => exact absurd ((List.cons.inj h).1 ▸ List.mem_cons_self) hxs
    | cons e ys =>
      obtain ⟨rfl, hmore⟩ := List.cons.inj h
      obtain ⟨rfl, rest⟩ := ih (List.not_mem_of_not_mem_cons hxs)
        (List.not_mem_of_not_mem_cons hys) hmore
      exact ⟨rfl, rest⟩

/-- What the keys of all accumulators begin with. -/
def commonPrefix : List Char :=
  ['a', 'c', 'c', 'u', 'm', 'u', 'l', 'a', 't', 'o', 'r', ':']

/-- The prefix of the keys of an execution. -/
def keyPrefix (name : List Char) : String :=
  String.ofList (commonPrefix ++ (name ++ [':']))

/-- The characters of a prefixed key. -/
theorem toList_keyPrefix (name : List Char) (rest : String) :
    (keyPrefix name ++ rest).toList = commonPrefix ++ (name ++ ':' :: rest.toList) := by
  rw [String.toList_append, keyPrefix, String.toList_ofList, List.append_assoc, List.append_assoc,
    List.singleton_append]

/-- The accumulator files its entries under the prefix. -/
structure FiledUnder (accumulator : ExternallyCachedAccumulator) (name : List Char) : Prop where
  format : ∀ value, formatTemplate accumulator.key value = .ok (keyPrefix name ++ value)
  scanKey : accumulator.scanKey = keyPrefix name ++ "*"

/-- The template of a new accumulator is filled by formatting what its id holds. -/
theorem formatTemplate_new (id value : String) :
    formatTemplate ("accumulator" ++ cacheSeparator.toString ++ id ++ cacheSeparator.toString ++
        "\x7b\x7d") value =
      match PyFormat.formatFrom value.toList false (id.toList ++ keyField) with
      | some text => .ok (String.ofList (commonPrefix ++ text))
      | none => .error .valueError := by
  have htemplate : ("accumulator" ++ cacheSeparator.toString ++ id ++ cacheSeparator.toString ++
      "\x7b\x7d").toList = commonPrefix ++ (id.toList ++ keyField) := by
    rw [String.toList_append, String.toList_append, String.toList_append, String.toList_append,
      List.append_assoc, List.append_assoc]
    rfl
  have hplain : ∀ c ∈ commonPrefix, c ≠ '\x7b' ∧ c ≠ '\x7d' := by
    simp [commonPrefix]
  unfold formatTemplate PyFormat.format
  rw [htemplate, formatFrom_append _ hplain]
  cases PyFormat.formatFrom value.toList false (id.toList ++ keyField) <;> rfl

/-- An accumulator that can be made has a prefix, with the ID as it is read in a template. -/
theorem filed_of_new {id : String} {self : ExternallyCachedAccumulator}
    (h : ExternallyCachedAccumulator.new id = .ok self) :
    ∃ name : List Char, id.toList = name.flatMap written ∧ FiledUnder self name := by
  obtain ⟨scanKey, hscan, hself⟩ := Except.bind_eq_ok.mp h
  obtain rfl := Except.ok.inj hself
  rcases writtenOrRaises id.toList with ⟨name, hname, hformat⟩ | hnone
  · have hfiled : ∀ value : String, formatTemplate ("accumulator" ++ cacheSeparator.toString ++
        id ++ cacheSeparator.toString ++ "\x7b\x7d") value = .ok (keyPrefix name ++ value) := by
      intro value
      rw [formatTemplate_new, hformat]
      refine congrArg Except.ok (String.toList_injective ?_)
      rw [toList_keyPrefix, String.toList_ofList]
    exact ⟨name, hname, hfiled, Except.ok.inj (hscan.symm.trans (hfiled "*"))⟩
  · rw [formatTemplate_new, hnone] at hscan
    cases hscan

/-- No text has the prefixes of two names without separators. -/
theorem keyPrefix_apart {name name' : List Char} (h : ':' ∉ name) (h' : ':' ∉ name')
    {rest rest' : String} (heq : keyPrefix name ++ rest = keyPrefix name' ++ rest') :
    name = name' ∧ rest = rest' := by
  have hlist : name ++ ':' :: rest.toList = name' ++ ':' :: rest'.toList := by
    have hcs := congrArg String.toList heq
    rw [toList_keyPrefix, toList_keyPrefix] at hcs
    exact List.append_cancel_left hcs
  obtain ⟨hname, hrest⟩ := append_cons_inj h h' hlist
  exact ⟨hname, String.toList_injective hrest⟩

/-- The key behind a prefix is extracted again. -/
theorem extractKey_keyPrefix {name : List Char} {key : String} (h : ':' ∉ key.toList) :
    ExternallyCachedAccumulator.extractKey (keyPrefix name ++ key) = key := by
  have hplain : ∀ c ∈ key.toList.reverse, decide (c ≠ cacheSeparator) = true := by
    intro c hc
    rw [decide_eq_true_eq]
    rintro rfl
    exact h (List.mem_reverse.mp hc)
  have hreverse : (keyPrefix name ++ key).toList.reverse =
      key.toList.reverse ++ ':' :: (commonPrefix ++ name).reverse := by
    rw [toList_keyPrefix]
    simp
  have htake : (':' :: (commonPrefix ++ name).reverse).takeWhile (· ≠ cacheSeparator) = [] := rfl
  unfold ExternallyCachedAccumulator.extractKey
  rw [hreverse, List.takeWhile_append_of_pos hplain, htake, List.append_nil, List.reverse_reverse,
    String.ofList_toList]

/-- The pattern of an accumulator matches what begins with its prefix. -/
theorem matchGlob_scanKey {name : List Char} (h : ∀ c ∈ name, Glob.isSpecial c = false)
    (key : String) :
    Glob.matchGlob (keyPrefix name ++ "*") key = true ↔ ∃ rest, key = keyPrefix name ++ rest := by
  have hplain : ∀ c ∈ commonPrefix ++ (name ++ [':']), Glob.isSpecial c = false := by
    simp only [List.forall_mem_append]
    exact ⟨by simp [commonPrefix, Glob.isSpecial], h, by simp [Glob.isSpecial]⟩
  have hpattern : keyPrefix name ++ "*" =
      String.ofList ((commonPrefix ++ (name ++ [':'])) ++ ['*']) := by
    apply String.toList_injective
    have hstar : "*".toList = ['*'] := rfl
    rw [String.toList_append, keyPrefix, hstar, String.toList_ofList, String.toList_ofList]
  have hkey : ∀ rest, (keyPrefix name ++ rest).toList =
      (commonPrefix ++ (name ++ [':'])) ++ rest.toList := by
    intro rest
    rw [String.toList_append, keyPrefix, String.toList_ofList]
  rw [hpattern, Glob.matchGlob_prefix hplain]
  constructor
  · rintro ⟨rest, hrest⟩
    refine ⟨String.ofList rest, String.toList_injective ?_⟩
    rw [hkey, String.toList_ofList, hrest]
  · rintro ⟨rest, rfl⟩
    exact ⟨rest.toList, (hkey rest).symm⟩

/-! ## One cache and many dictionaries -/

variable {ι κ V : Type}

/-- The accumulators have names of their own, without separators and characters of patterns. -/
structure Shared (accumulators : ι → ExternallyCachedAccumulator) (names : ι → List Char) :
    Prop where
  filed : ∀ i, FiledUnder (accumulators i) (names i)
  separated : ∀ i, ':' ∉ names i
  plain : ∀ i, ∀ c ∈ names i, Glob.isSpecial c = false
  injective : Function.Injective names

/-- What the cache has under the prefix of an accumulator is its dictionary, pickled. -/
structure CacheHolds (pickle : Pickle V) (names : ι → List Char) (cache : Cache)
    (dicts : ι → OrderedDict String V) : Prop where
  entry : ∀ i rest, cache.entries.get? (keyPrefix (names i) ++ rest) =
    ((dicts i).get? rest).map pickle.dumps
  nodup : ∀ i, (dicts i).keys.Nodup
  separated : ∀ i, ∀ key ∈ (dicts i).keys, ':' ∉ key.toList

section Steps

variable {str : κ → String} {pickle : Pickle V}
variable {accumulators : ι → ExternallyCachedAccumulator} {names : ι → List Char}
variable {cache : Cache} {dicts : ι → OrderedDict String V}

/-- Under one prefix, keys are equal if their rests are. -/
theorem keyPrefix_cancel (hshared : Shared accumulators names) {i : ι} {rest rest' : String} :
    keyPrefix (names i) ++ rest = keyPrefix (names i) ++ rest' ↔ rest = rest' :=
  ⟨fun heq => (keyPrefix_apart (hshared.separated i) (hshared.separated i) heq).2,
    fun heq => heq ▸ rfl⟩

/-- An accumulator files a key under its prefix. -/
theorem formatKey_run (hshared : Shared accumulators names) (i : ι) (key : κ) (cache : Cache) :
    (accumulators i).formatKey str key cache = .ok (keyPrefix (names i) ++ str key) cache := by
  unfold ExternallyCachedAccumulator.formatKey lift
  rw [(hshared.filed i).format]

/-- The cache has an entry under a prefix exactly if the dictionary has the key. -/
theorem hasEntry_run (h : CacheHolds pickle names cache dicts) (i : ι) (rest : String) :
    RedisCacheAdapter.hasEntry (keyPrefix (names i) ++ rest) cache =
      .ok ((dicts i).get? rest).isSome cache := by
  unfold RedisCacheAdapter.hasEntry
  rw [h.entry, Option.isSome_map]

/-- What was pickled is loaded again from the answer of the cache. -/
theorem loads_decodeResponse (value : V) :
    pickle.loads (RedisCacheAdapter.decodeResponse (pickle.dumps value)) = .ok value := by
  unfold RedisCacheAdapter.decodeResponse
  split
  · rename_i text htext
    exact pickle.loads_text value text htext
  · exact pickle.loads_bytes value

/-- An accumulator loads the value its dictionary has. -/
theorem load_run (h : CacheHolds pickle names cache dicts) {i : ι} {rest : String} {value : V}
    (hvalue : (dicts i).get? rest = some value) :
    ExternallyCachedAccumulator.load pickle (keyPrefix (names i) ++ rest) cache =
      .ok value cache := by
  have hget : RedisCacheAdapter.get (keyPrefix (names i) ++ rest) cache =
      .ok (some (RedisCacheAdapter.decodeResponse (pickle.dumps value))) cache := by
    unfold RedisCacheAdapter.get
    rw [h.entry, hvalue]
    rfl
  unfold ExternallyCachedAccumulator.load
  rw [bind_of_ok hget, Pickle.loadsResponse, loads_decodeResponse]
  rfl

/-- A scan for the keys of an accumulator comes by the keys of its dictionary. -/
theorem scan_run (hshared : Shared accumulators names)
    (h : CacheHolds pickle names cache dicts) (i : ι) (order : ScanOrder) :
    ∃ items : List (String × V), items.Perm (dicts i) ∧
      RedisCacheAdapter.scan (keyPrefix (names i) ++ "*") order cache =
        .ok (items.map fun item => keyPrefix (names i) ++ item.1) cache := by
  have hinjective : Function.Injective (keyPrefix (names i) ++ ·) := fun rest rest' heq =>
    (keyPrefix_apart (hshared.separated i) (hshared.separated i) heq).2
  have hmatching : (cache.entries.keys.filter
      (Glob.matchGlob (keyPrefix (names i) ++ "*"))).Perm
        ((dicts i).map fun item => keyPrefix (names i) ++ item.1) := by
    have hmap : ((dicts i).map fun item => keyPrefix (names i) ++ item.1) =
        (dicts i).keys.map (keyPrefix (names i) ++ ·) := by
      unfold OrderedDict.keys
      rw [List.map_map]
      rfl
    rw [hmap]
    refine (List.perm_ext_iff_of_nodup (cache.nodup.filter _)
      ((h.nodup i).map hinjective)).mpr fun key => ?_
    rw [List.mem_filter, matchGlob_scanKey (hshared.plain i), List.mem_map]
    constructor
    · rintro ⟨hkey, rest, rfl⟩
      refine ⟨rest, ?_, rfl⟩
      rw [OrderedDict.mem_keys_iff, h.entry, Option.isSome_map] at hkey
      exact (OrderedDict.mem_keys_iff _ _).mpr hkey
    · rintro ⟨rest, hrest, rfl⟩
      refine ⟨?_, rest, rfl⟩
      rw [OrderedDict.mem_keys_iff, h.entry, Option.isSome_map]
      exact (OrderedDict.mem_keys_iff _ _).mp hrest
  obtain ⟨items, hitems, hperm⟩ := (congrFun₂ (List.eq_map_comp_perm
    fun item : String × V => keyPrefix (names i) ++ item.1) _ _).mpr
      ((order.perm _).trans hmatching)
  exact ⟨items, hperm, by unfold RedisCacheAdapter.scan; rw [hitems]⟩

end Steps

section Changes

variable [DecidableEq ι] {pickle : Pickle V} {names : ι → List Char}
variable {accumulators : ι → ExternallyCachedAccumulator}
variable {cache cache' : Cache} {dicts : ι → OrderedDict String V}

/-- A change under one prefix is a change of one dictionary. -/
theorem CacheHolds.change (hshared : Shared accumulators names)
    (h : CacheHolds pickle names cache dicts) {i : ι} {d : OrderedDict String V}
    (hentry : ∀ rest, cache'.entries.get? (keyPrefix (names i) ++ rest) =
      (d.get? rest).map pickle.dumps)
    (hother : ∀ key, (∀ rest, key ≠ keyPrefix (names i) ++ rest) →
      cache'.entries.get? key = cache.entries.get? key)
    (hnodup : d.keys.Nodup) (hseparated : ∀ key ∈ d.keys, ':' ∉ key.toList) :
    CacheHolds pickle names cache' (Function.update dicts i d) where
  entry := by
    intro j rest
    by_cases hj : j = i
    · subst hj
      rw [Function.update_self, hentry]
    · rw [Function.update_of_ne hj, ← h.entry]
      refine hother _ fun rest' heq => hj (hshared.injective ?_)
      exact (keyPrefix_apart (hshared.separated j) (hshared.separated i) heq).1
  nodup := by
    intro j
    by_cases hj : j = i
    · subst hj
      rwa [Function.update_self]
    · rw [Function.update_of_ne hj]
      exact h.nodup j
  separated := by
    intro j
    by_cases hj : j = i
    · subst hj
      rwa [Function.update_self]
    · rw [Function.update_of_ne hj]
      exact h.separated j

/-- Storing a pickled value sets the key in the one dictionary and keeps the others. -/
theorem CacheHolds.set (hshared : Shared accumulators names)
    (h : CacheHolds pickle names cache dicts) (i : ι) {key : String} (hkey : ':' ∉ key.toList) (value : V) :
    ∃ cache', RedisCacheAdapter.set (keyPrefix (names i) ++ key) (pickle.dumps value) cache =
        .ok () cache' ∧
      CacheHolds pickle names cache' (Function.update dicts i ((dicts i).set key value)) := by
  refine ⟨_, rfl, h.change hshared (fun rest => ?_) (fun other hother => ?_)
    (OrderedDict.nodup_keys_set (h.nodup i) value) fun other hother => ?_⟩
  · dsimp only
    rw [OrderedDict.get?_set, OrderedDict.get?_set, h.entry]
    simp only [keyPrefix_cancel hshared]
    split_ifs
    · rfl
    · rfl
  · exact OrderedDict.get?_set_of_ne (hother key) _ _
  · rcases (OrderedDict.mem_keys_set _ _ _ _).mp hother with rfl | hother
    · exact hkey
    · exact h.separated i other hother

/-- Deleting an entry pops the key of the one dictionary and keeps the others. -/
theorem CacheHolds.delete (hshared : Shared accumulators names)
    (h : CacheHolds pickle names cache dicts) (i : ι) (key : String) :
    ∃ cache', RedisCacheAdapter.delete (keyPrefix (names i) ++ key) cache = .ok () cache' ∧
      CacheHolds pickle names cache' (Function.update dicts i ((dicts i).pop key)) := by
  refine ⟨_, rfl, h.change hshared (fun rest => ?_) (fun other hother => ?_)
    (OrderedDict.nodup_keys_pop (h.nodup i)) fun other hother => ?_⟩
  · dsimp only
    rw [OrderedDict.get?_pop, OrderedDict.get?_pop, h.entry]
    simp only [keyPrefix_cancel hshared]
    split_ifs
    · rfl
    · rfl
  · dsimp only
    rw [OrderedDict.get?_pop, if_neg (hother key)]
  · rw [OrderedDict.keys_pop] at hother
    exact h.separated i other (List.mem_filter.mp hother).1

end Changes

/-! ## Operations -/

/-- The operation ends like that of the dictionary of `i`, and the other dictionaries are kept. -/
def Serves [DecidableEq ι] (pickle : Pickle V) (names : ι → List Char) (i : ι)
    (dicts : ι → OrderedDict String V) (result : EStateM.Result Exn Cache (Observed V))
    (expected : Except Exn (Observed V) × OrderedDict String V) : Prop :=
  AgreesWith (Program.outcome result).1 expected.1 ∧
    CacheHolds pickle names (Program.outcome result).2 (Function.update dicts i expected.2)

section Serves

variable [DecidableEq ι] {str : κ → String} {pickle : Pickle V}
variable {accumulators : ι → ExternallyCachedAccumulator} {names : ι → List Char}
variable {cache : Cache} {dicts : ι → OrderedDict String V} {i : ι}

/-- What is shown is what the dictionary shows, and nothing changes. -/
theorem Serves.shown (h : CacheHolds pickle names cache dicts) {shown : Observed V}
    {shown' : Except Exn (Observed V)} {result : EStateM.Result Exn Cache (Observed V)}
    (hresult : result = .ok shown cache) (hagrees : AgreesWith (.ok shown) shown') :
    Serves pickle names i dicts result (shown', dicts i) := by
  unfold Serves
  rw [hresult, Function.update_eq_self]
  exact ⟨hagrees, h⟩

/-- An operation that raises and leaves the cache serves one that raises the same. -/
theorem Serves.raised (h : CacheHolds pickle names cache dicts) {e : Exn}
    {result : EStateM.Result Exn Cache (Observed V)} (hresult : result = .error e cache) :
    Serves pickle names i dicts result (.error e, dicts i) := by
  unfold Serves
  rw [hresult, Function.update_eq_self]
  exact ⟨.same _, h⟩

/-- An operation that leaves the cache of the changed dictionary serves the change. -/
theorem Serves.changed {d : OrderedDict String V} {shown : Observed V}
    {result : EStateM.Result Exn Cache (Observed V)} {cache' : Cache}
    (hresult : result = .ok shown cache')
    (h : CacheHolds pickle names cache' (Function.update dicts i d)) :
    Serves pickle names i dicts result (.ok shown, d) := by
  rw [hresult]
  exact ⟨.same _, h⟩

variable (hshared : Shared accumulators names)

include hshared

/-- Setting an item sets it in the dictionary. -/
theorem setItem_run (hkeys : ∀ key, ':' ∉ (str key).toList)
    (h : CacheHolds pickle names cache dicts) (key : κ) (value : V) :
    ∃ cache', (accumulators i).setItem str pickle key value cache = .ok () cache' ∧
      CacheHolds pickle names cache' (Function.update dicts i ((dicts i).set (str key) value)) := by
  obtain ⟨cache', hset, hholds⟩ := h.set hshared i (hkeys key) value
  refine ⟨cache', ?_, hholds⟩
  unfold ExternallyCachedAccumulator.setItem
  rw [bind_of_ok (formatKey_run hshared i key cache), hset]

/-- Setting an item serves like the dictionary. -/
theorem serves_set (hkeys : ∀ key, ':' ∉ (str key).toList) (h : CacheHolds pickle names cache dicts)
    (key : κ) (value : V) :
    Serves pickle names i dicts
      ((accumulators i).serve str pickle (.set key value) cache)
      (Dictionary.serve str (.set key value) (dicts i)) := by
  obtain ⟨cache', hset, hholds⟩ := setItem_run hshared hkeys h key value
  exact .changed (bind_of_ok hset) hholds

omit [DecidableEq ι] in
/-- Getting an item gives the value of the dictionary or raises `KeyError`. -/
theorem getItem_run (h : CacheHolds pickle names cache dicts) (item : κ) :
    (accumulators i).getItem str pickle item cache =
      match (dicts i).get? (str item) with
      | some value => .ok value cache
      | none => .error .keyError cache := by
  have hformat := @formatKey_run _ _ str _ _ hshared i item cache
  unfold ExternallyCachedAccumulator.getItem
  rw [bind_of_ok hformat, bind_of_ok (hasEntry_run h i (str item))]
  cases hvalue : (dicts i).get? (str item) with
  | some value =>
    show ((accumulators i).formatKey str item >>= _) cache = _
    rw [bind_of_ok hformat, load_run h hvalue]
  | none => rfl

/-- Getting an item serves like the dictionary. -/
theorem serves_get (h : CacheHolds pickle names cache dicts) (key : κ) :
    Serves pickle names i dicts ((accumulators i).serve str pickle (.get key) cache)
      (Dictionary.serve str (.get key) (dicts i)) := by
  have hrun := @getItem_run _ _ _ str pickle _ _ _ _ i hshared h key
  rw [Dictionary.serve_get]
  cases hvalue : (dicts i).get? (str key) with
  | some value =>
    rw [hvalue] at hrun
    exact .shown h (bind_of_ok hrun) (.same _)
  | none =>
    rw [hvalue] at hrun
    exact .raised h (bind_of_error hrun)

omit [DecidableEq ι] in
/-- Deleting an item deletes the entry the dictionary has or raises `KeyError`. -/
theorem delItem_run (h : CacheHolds pickle names cache dicts) (key : κ) :
    (accumulators i).delItem str key cache =
      match (dicts i).get? (str key) with
      | some _ => RedisCacheAdapter.delete (keyPrefix (names i) ++ str key) cache
      | none => .error .keyError cache := by
  unfold ExternallyCachedAccumulator.delItem
  rw [bind_of_ok (formatKey_run hshared i key cache), bind_of_ok (hasEntry_run h i (str key))]
  cases (dicts i).get? (str key) <;> rfl

/-- Deleting an item serves like the dictionary. -/
theorem serves_delete (h : CacheHolds pickle names cache dicts) (key : κ) :
    Serves pickle names i dicts ((accumulators i).serve str pickle (.delete key) cache)
      (Dictionary.serve str (.delete key) (dicts i)) := by
  have hrun := @delItem_run _ _ _ str pickle _ _ _ _ i hshared h key
  rw [Dictionary.serve_delete]
  cases hvalue : (dicts i).get? (str key) with
  | some value =>
    rw [hvalue] at hrun
    obtain ⟨cache', hdelete, hholds⟩ := h.delete hshared i (str key)
    exact .changed (bind_of_ok (hrun.trans hdelete)) hholds
  | none =>
    rw [hvalue] at hrun
    exact .raised h (bind_of_error hrun)

/-- Asking for a key serves like the dictionary. -/
theorem serves_contains (h : CacheHolds pickle names cache dicts) (key : κ) :
    Serves pickle names i dicts ((accumulators i).serve str pickle (.contains key) cache)
      (Dictionary.serve str (.contains key) (dicts i)) := by
  have hrun : (accumulators i).contains str key cache =
      .ok ((dicts i).get? (str key)).isSome cache := by
    unfold ExternallyCachedAccumulator.contains
    rw [bind_of_ok (formatKey_run hshared i key cache), hasEntry_run h]
  exact .shown h (bind_of_ok hrun) (.same _)

/-- Setting items one after another updates the dictionary with them. -/
theorem forM_setItem (hkeys : ∀ key, ':' ∉ (str key).toList) (items : List (κ × V))
    (h : CacheHolds pickle names cache dicts) :
    ∃ cache', (items.forM fun item => (accumulators i).setItem str pickle item.1 item.2) cache =
        .ok ⟨⟩ cache' ∧
      CacheHolds pickle names cache' (Function.update dicts i
        ((dicts i).update (items.map fun item => (str item.1, item.2)))) := by
  induction items generalizing cache dicts with
  | nil =>
    refine ⟨cache, rfl, ?_⟩
    show CacheHolds pickle names cache (Function.update dicts i (dicts i))
    rwa [Function.update_eq_self]
  | cons item items ih =>
    obtain ⟨cache', hset, hholds⟩ := setItem_run (i := i) hshared hkeys h item.1 item.2
    obtain ⟨cache'', hmore, hholds⟩ := ih hholds
    refine ⟨cache'', (bind_of_ok hset).trans hmore, ?_⟩
    rw [Function.update_self, Function.update_idem] at hholds
    exact hholds

/-- The same of several lists of items. -/
theorem forM_forM_setItem (hkeys : ∀ key, ':' ∉ (str key).toList) (args : List (List (κ × V)))
    (h : CacheHolds pickle names cache dicts) :
    ∃ cache', (args.forM fun arg => arg.forM fun item =>
        (accumulators i).setItem str pickle item.1 item.2) cache = .ok ⟨⟩ cache' ∧
      CacheHolds pickle names cache' (Function.update dicts i
        ((dicts i).update (args.flatten.map fun item => (str item.1, item.2)))) := by
  induction args generalizing cache dicts with
  | nil =>
    refine ⟨cache, rfl, ?_⟩
    show CacheHolds pickle names cache (Function.update dicts i (dicts i))
    rwa [Function.update_eq_self]
  | cons arg args ih =>
    obtain ⟨cache', hset, hholds⟩ := forM_setItem (i := i) hshared hkeys arg h
    obtain ⟨cache'', hmore, hholds⟩ := ih hholds
    refine ⟨cache'', (bind_of_ok hset).trans hmore, ?_⟩
    rw [Function.update_self, Function.update_idem] at hholds
    rw [List.flatten_cons, List.map_append, OrderedDict.update_append]
    exact hholds

/-- An update serves like the dictionary. -/
theorem serves_update (hkeys : ∀ key, ':' ∉ (str key).toList)
    (h : CacheHolds pickle names cache dicts) (args : List (List (κ × V))) (kwargs : List (κ × V)) :
    Serves pickle names i dicts ((accumulators i).serve str pickle (.update args kwargs) cache)
      (Dictionary.serve str (.update args kwargs) (dicts i)) := by
  obtain ⟨cache', hargs, hholds⟩ := forM_forM_setItem (i := i) hshared hkeys args h
  obtain ⟨cache'', hkwargs, hholds⟩ := forM_setItem (i := i) hshared hkeys kwargs hholds
  rw [Function.update_self, Function.update_idem] at hholds
  rw [Dictionary.serve_update, List.map_append, OrderedDict.update_append]
  exact .changed (bind_of_ok ((bind_of_ok hargs).trans hkwargs)) hholds

omit [DecidableEq ι] in
/-- `pop` with its key and at most one default. -/
theorem pop_run (h : CacheHolds pickle names cache dicts) (key : κ) {more : List V}
    (hmore : ¬2 ≤ more.length) :
    (accumulators i).pop str pickle key more cache =
      match (dicts i).get? (str key) with
      | some value =>
        (do
          RedisCacheAdapter.delete (keyPrefix (names i) ++ str key)
          pure value : CacheM V) cache
      | none =>
        match more with
        | value :: _ => .ok value cache
        | [] => .error .keyError cache := by
  have hformat := @formatKey_run _ _ str _ _ hshared i key cache
  have hentry := hasEntry_run h i (str key)
  unfold ExternallyCachedAccumulator.pop
  rw [if_neg (by omega)]
  show ((accumulators i).formatKey str key >>= _) cache = _
  rw [bind_of_ok hformat, bind_of_ok hentry]
  cases hvalue : (dicts i).get? (str key) with
  | some value =>
    show (ExternallyCachedAccumulator.load pickle (keyPrefix (names i) ++ str key) >>= _) cache = _
    rw [bind_of_ok (load_run h hvalue)]
  | none =>
    cases more <;> rfl

/-- Popping a key serves like the dictionary. -/
theorem serves_pop (h : CacheHolds pickle names cache dicts) (key : κ) (more : List V) :
    Serves pickle names i dicts ((accumulators i).serve str pickle (.pop key more) cache)
      (Dictionary.serve str (.pop key more) (dicts i)) := by
  rw [Dictionary.serve_pop]
  by_cases hmore : 2 ≤ more.length
  · have hrun : (accumulators i).pop str pickle key more cache = .error .typeError cache := by
      unfold ExternallyCachedAccumulator.pop
      rw [if_pos (by omega)]
      rfl
    rw [if_pos hmore]
    exact .raised h (bind_of_error hrun)
  have hrun := @pop_run _ _ _ str pickle _ _ _ _ i hshared h key _ hmore
  rw [if_neg hmore]
  cases hvalue : (dicts i).get? (str key) with
  | some value =>
    rw [hvalue] at hrun
    obtain ⟨cache', hdelete, hholds⟩ := h.delete hshared i (str key)
    exact .changed (bind_of_ok (hrun.trans (bind_of_ok hdelete))) hholds
  | none =>
    rw [hvalue] at hrun
    cases more with
    | cons value more => exact .shown h (bind_of_ok hrun) (.same _)
    | nil => exact .raised h (bind_of_error hrun)

omit [DecidableEq ι] in
/-- A scan finds the prefixed keys of the dictionary, in some order. -/
theorem keys_run (h : CacheHolds pickle names cache dicts) (order : ScanOrder) :
    ∃ items : List (String × V), items.Perm (dicts i) ∧
      RedisCacheAdapter.scan (accumulators i).scanKey order cache =
        .ok (items.map fun item => keyPrefix (names i) ++ item.1) cache := by
  rw [(hshared.filed i).scanKey]
  exact scan_run hshared h i order

omit [DecidableEq ι] in
/-- The length is that of the dictionary. -/
theorem len_run (h : CacheHolds pickle names cache dicts) (order : ScanOrder) :
    (accumulators i).len order cache = .ok (dicts i).length cache := by
  obtain ⟨items, hperm, hscan⟩ := scan_run hshared h i order
  have hformat : (lift (formatTemplate (accumulators i).key "*") : CacheM String) cache =
      .ok (keyPrefix (names i) ++ "*") cache := by
    unfold lift
    rw [(hshared.filed i).format]
  unfold ExternallyCachedAccumulator.len
  rw [bind_of_ok hformat, bind_of_ok hscan, List.length_map, hperm.length_eq]
  rfl

/-- Asking for the length serves like the dictionary. -/
theorem serves_len (h : CacheHolds pickle names cache dicts) (order : ScanOrder) :
    Serves pickle names i dicts ((accumulators i).serve str pickle (.len order) cache)
      (Dictionary.serve str (.len order) (dicts i)) :=
  .shown h (bind_of_ok (len_run hshared h order)) (.same _)

/-- The keys serve like those of the dictionary. -/
theorem serves_keys (h : CacheHolds pickle names cache dicts) (order : ScanOrder) :
    Serves pickle names i dicts ((accumulators i).serve str pickle (.keys order) cache)
      (Dictionary.serve str (.keys order) (dicts i)) := by
  obtain ⟨items, hperm, hscan⟩ := keys_run hshared h order
  refine .shown h (bind_of_ok hscan) (.keys ?_)
  rw [List.map_map]
  have hextract : items.map (ExternallyCachedAccumulator.extractKey ∘
      fun item => keyPrefix (names i) ++ item.1) = items.map Prod.fst := by
    refine List.map_congr_left fun item hitem => extractKey_keyPrefix ?_
    exact h.separated i _ (List.mem_map_of_mem (hperm.subset hitem))
  rw [hextract]
  exact hperm.map _

omit [DecidableEq ι] hshared in
/-- What is read of each key of a list is read of the list. -/
theorem mapM_kept {α β γ : Type} {f : α → CacheM β} {g : γ → α} {r : γ → β} {cs : List γ}
    (h : ∀ c ∈ cs, f (g c) cache = .ok (r c) cache) :
    (cs.map g).mapM f cache = .ok (cs.map r) cache := by
  induction cs with
  | nil => rfl
  | cons c cs ih =>
    obtain ⟨hc, hcs⟩ := List.forall_mem_cons.mp h
    exact mapM_cons_eq_ok.mpr ⟨_, _, _, hc, ih hcs, rfl⟩

omit [DecidableEq ι] hshared in
/-- An item of the dictionary is loaded with its value. -/
theorem load_item (h : CacheHolds pickle names cache dicts) {item : String × V}
    (hitem : item ∈ dicts i) :
    ExternallyCachedAccumulator.load pickle (keyPrefix (names i) ++ item.1) cache =
      .ok item.2 cache :=
  load_run h (OrderedDict.get?_of_mem (h.nodup i) hitem)

/-- The values serve like those of the dictionary. -/
theorem serves_values (h : CacheHolds pickle names cache dicts) (order : ScanOrder) :
    Serves pickle names i dicts ((accumulators i).serve str pickle (.values order) cache)
      (Dictionary.serve str (.values order) (dicts i)) := by
  obtain ⟨items, hperm, hscan⟩ := keys_run hshared h order
  have hrun : (accumulators i).values pickle order cache = .ok (items.map Prod.snd) cache :=
    (bind_of_ok hscan).trans
      (mapM_kept fun item hitem => load_item h (hperm.subset hitem))
  exact .shown h (bind_of_ok hrun) (.values (hperm.map _))

/-- The items serve like those of the dictionary. -/
theorem serves_items (h : CacheHolds pickle names cache dicts) (order : ScanOrder) :
    Serves pickle names i dicts ((accumulators i).serve str pickle (.items order) cache)
      (Dictionary.serve str (.items order) (dicts i)) := by
  obtain ⟨items, hperm, hscan⟩ := keys_run hshared h order
  have hrun : (accumulators i).items pickle order cache =
      .ok (items.map fun item => (keyPrefix (names i) ++ item.1, item.2)) cache :=
    (bind_of_ok hscan).trans
      (mapM_kept fun item hitem => bind_of_ok (load_item h (hperm.subset hitem)))
  have hextract : ∀ item ∈ items,
      (ExternallyCachedAccumulator.extractKey (keyPrefix (names i) ++ item.1), item.2) = item := by
    intro item hitem
    rw [extractKey_keyPrefix (h.separated i _ (List.mem_map_of_mem (hperm.subset hitem)))]
  have hmap : ((items.map fun item => (keyPrefix (names i) ++ item.1, item.2)).map
      fun item => (ExternallyCachedAccumulator.extractKey item.1, item.2)) = items := by
    rw [List.map_map]
    exact (List.map_congr_left hextract).trans (List.map_id items)
  refine .shown h (bind_of_ok hrun) (.items ?_)
  rw [hmap]
  exact hperm

/-- Deleting items one after another pops their keys from the dictionary. -/
theorem forM_delete (h : CacheHolds pickle names cache dicts) (items : List (String × V)) :
    ∃ cache', (items.map fun item => keyPrefix (names i) ++ item.1).forM RedisCacheAdapter.delete
        cache = .ok ⟨⟩ cache' ∧
      CacheHolds pickle names cache' (Function.update dicts i
        (items.foldl (fun d item => d.pop item.1) (dicts i))) := by
  induction items generalizing cache dicts with
  | nil =>
    refine ⟨cache, rfl, ?_⟩
    show CacheHolds pickle names cache (Function.update dicts i (dicts i))
    rwa [Function.update_eq_self]
  | cons item items ih =>
    obtain ⟨cache', hdelete, hholds⟩ := h.delete hshared i item.1
    obtain ⟨cache'', hmore, hholds⟩ := ih hholds
    refine ⟨cache'', (bind_of_ok hdelete).trans hmore, ?_⟩
    rw [Function.update_self, Function.update_idem] at hholds
    exact hholds

omit [DecidableEq ι] hshared in
/-- Nothing is left of a dictionary when all of its keys are deleted. -/
theorem foldl_pop_eq_nil {items d : OrderedDict String V} (h : items.Perm d) :
    items.foldl (fun d item => d.pop item.1) d = [] := by
  have hmem : ∀ (items d : OrderedDict String V) (item : String × V),
      item ∈ items.foldl (fun d item => d.pop item.1) d → item ∈ d ∧ item ∉ items := by
    intro items
    induction items with
    | nil => exact fun d item hitem => ⟨hitem, List.not_mem_nil⟩
    | cons other items ih =>
      intro d item hitem
      obtain ⟨hpop, hmore⟩ := ih _ item hitem
      obtain ⟨hd, hne⟩ := List.mem_filter.mp hpop
      refine ⟨hd, fun hitem => ?_⟩
      rcases List.mem_cons.mp hitem with rfl | hitem
      · simp at hne
      · exact hmore hitem
  refine List.eq_nil_iff_forall_not_mem.mpr fun item hitem => ?_
  obtain ⟨hd, hnot⟩ := hmem items d item hitem
  exact hnot (h.mem_iff.mpr hd)

/-- Clearing serves like the dictionary. -/
theorem serves_clear (h : CacheHolds pickle names cache dicts) (order : ScanOrder) :
    Serves pickle names i dicts ((accumulators i).serve str pickle (.clear order) cache)
      (Dictionary.serve str (.clear order) (dicts i)) := by
  obtain ⟨items, hperm, hscan⟩ := keys_run hshared h order
  obtain ⟨cache', hdelete, hholds⟩ := forM_delete (i := i) hshared h items
  rw [foldl_pop_eq_nil hperm] at hholds
  have hrun : (accumulators i).clear order cache = .ok ⟨⟩ cache' :=
    (bind_of_ok hscan).trans hdelete
  exact .changed (bind_of_ok hrun) hholds

/-- **Every operation on one accumulator ends like that of its dictionary, and keeps the
dictionaries of the others.** -/
theorem serve_holds (hkeys : ∀ key, ':' ∉ (str key).toList)
    (h : CacheHolds pickle names cache dicts) (op : AccumulatorOp κ V) :
    Serves pickle names i dicts ((accumulators i).serve str pickle op cache)
      (Dictionary.serve str op (dicts i)) := by
  cases op with
  | set key value => exact serves_set hshared hkeys h key value
  | get key => exact serves_get hshared h key
  | delete key => exact serves_delete hshared h key
  | contains key => exact serves_contains hshared h key
  | update args kwargs => exact serves_update hshared hkeys h args kwargs
  | pop key more => exact serves_pop hshared h key more
  | len order => exact serves_len hshared h order
  | clear order => exact serves_clear hshared h order
  | keys order => exact serves_keys hshared h order
  | values order => exact serves_values hshared h order
  | items order => exact serves_items hshared h order

/-! ## Runs -/

omit hshared in
/-- What a run shows of one accumulator. -/
def shownOf (i : ι) (shown : List (ι × Except Exn (Observed V))) :
    List (Except Exn (Observed V)) :=
  (shown.filter (·.1 = i)).map Prod.snd

/-- The operations of a run on one accumulator. -/
def opsOf (i : ι) (ops : List (ι × AccumulatorOp κ V)) : List (AccumulatorOp κ V) :=
  (ops.filter (·.1 = i)).map Prod.snd

/-- Over any operations, an accumulator shows what a dictionary shows that had its own alone. -/
theorem serveAll_agrees (hkeys : ∀ key, ':' ∉ (str key).toList)
    (ops : List (ι × AccumulatorOp κ V)) (h : CacheHolds pickle names cache dicts) (i : ι) :
    List.Forall₂ AgreesWith (shownOf i (serveAll str pickle accumulators ops cache))
      (Dictionary.serveAll str (opsOf i ops) (dicts i)) := by
  induction ops generalizing cache dicts with
  | nil => exact .nil
  | cons op ops ih =>
    obtain ⟨j, op⟩ := op
    obtain ⟨hagrees, hholds⟩ := serve_holds (i := j) hshared hkeys h op
    have hmore := ih hholds
    by_cases hj : j = i
    · subst hj
      rw [Function.update_self] at hmore
      simp only [serveAll, shownOf, opsOf, List.filter_cons, decide_true, if_true,
        List.map_cons]
      exact .cons hagrees hmore
    · rw [Function.update_of_ne (Ne.symm hj)] at hmore
      simp only [serveAll, shownOf, opsOf, List.filter_cons, hj, decide_false,
        Bool.false_eq_true, if_false]
      exact hmore

end Serves

/-! ## Any accumulators on one cache -/

/-- The text has neither separators nor the characters of patterns. -/
def PlainId (id : String) : Prop :=
  ∀ c ∈ id.toList, c ≠ ':' ∧ Glob.isSpecial c = false

/-- An id is plain if a test of its characters says so. -/
theorem plainId_of_all {id : String}
    (h : id.toList.all (fun c => c ≠ ':' && !Glob.isSpecial c) = true) : PlainId id := by
  simpa [PlainId] using h

/-- The characters of a name occur in the id it is written as. -/
theorem mem_of_written {id : String} {name : List Char} (h : id.toList = name.flatMap written)
    {c : Char} (hc : c ∈ name) : c ∈ id.toList := by
  rw [h]
  exact List.mem_flatMap.mpr ⟨c, hc, mem_written c⟩

/-- Accumulators made of different plain ids have names of their own. -/
theorem shared_of_new {ids : ι → String} {accumulators : ι → ExternallyCachedAccumulator}
    (hnew : ∀ i, ExternallyCachedAccumulator.new (ids i) = .ok (accumulators i))
    (hids : Function.Injective ids) (hplain : ∀ i, PlainId (ids i)) :
    ∃ names, Shared accumulators names := by
  choose names hwritten hfiled using fun i => filed_of_new (hnew i)
  refine ⟨names, hfiled, fun i hi => ?_, fun i c hc => ?_, fun i j hij => hids ?_⟩
  · exact (hplain i ':' (mem_of_written (hwritten i) hi)).1 rfl
  · exact (hplain i c (mem_of_written (hwritten i) hc)).2
  · apply String.toList_injective
    rw [hwritten, hwritten, hij]

/-- A cache without entries of accumulators holds empty dictionaries. -/
theorem holds_fresh {pickle : Pickle V} {names : ι → List Char} {cache : Cache}
    (hfresh : ∀ key ∈ cache.entries.keys, ¬commonPrefix <+: key.toList) :
    CacheHolds pickle names cache fun _ => [] where
  entry := by
    intro i rest
    refine OrderedDict.get?_eq_none_iff.mpr fun hkey => hfresh _ hkey ?_
    rw [toList_keyPrefix]
    exact List.prefix_append _ _
  nodup := fun _ => List.nodup_nil
  separated := fun _ _ hkey => absurd hkey List.not_mem_nil

/-- **Accumulators with different IDs on one cache behave like dictionaries that are keyed by texts,
each on its own**: whatever is done with the others, what an accumulator shows in a run is what the
operations on it alone show of a dictionary. -/
theorem accumulators_isolated [DecidableEq ι] (str : κ → String) (pickle : Pickle V)
    (ids : ι → String) (accumulators : ι → ExternallyCachedAccumulator)
    (hnew : ∀ i, ExternallyCachedAccumulator.new (ids i) = .ok (accumulators i))
    (hids : Function.Injective ids) (hplain : ∀ i, PlainId (ids i))
    (hkeys : ∀ key, ':' ∉ (str key).toList) (cache : Cache)
    (hfresh : ∀ key ∈ cache.entries.keys, ¬commonPrefix <+: key.toList)
    (ops : List (ι × AccumulatorOp κ V)) (i : ι) :
    List.Forall₂ AgreesWith (shownOf i (serveAll str pickle accumulators ops cache))
      (Dictionary.serveAll str (opsOf i ops) []) := by
  obtain ⟨names, hshared⟩ := shared_of_new hnew hids hplain
  exact serveAll_agrees hshared hkeys ops (holds_fresh hfresh) i

/-! ## Two executions -/

/-- How Python 3 pickles booleans. -/
def pickledBool (b : Bool) : ByteArray :=
  ⟨#[0x80, 3, if b then 0x88 else 0x89, 0x2e]⟩

/-- A pickled truth value is no text. -/
theorem fromUTF8_pickledBool (b : Bool) : String.fromUTF8? (pickledBool b) = none := by
  cases b
  · decide
  · decide

def boolPickle : Pickle Bool where
  dumps := pickledBool
  loads
    | .bytes value =>
      if value = pickledBool true then .ok true
      else if value = pickledBool false then .ok false
      else .error (.raised "UnpicklingError")
    | .text _ => .error .typeError
  loads_bytes := by
    intro b
    cases b
    · rfl
    · rfl
  loads_text := by
    intro b text htext
    rw [fromUTF8_pickledBool] at htext
    cases htext

/-- The keys of two executions: an action and a branch. -/
def twoKeys (key : Bool) : String :=
  if key then "action" else "branch"

/-- The IDs of two executions. -/
def twoIds (i : Bool) : String :=
  if i then "first" else "second"

def twoAccumulators (i : Bool) : ExternallyCachedAccumulator :=
  if i then { key := "accumulator:first:\x7b\x7d", scanKey := "accumulator:first:*" }
  else { key := "accumulator:second:\x7b\x7d", scanKey := "accumulator:second:*" }

/-- One execution leaves a result and takes all of its own back, the other one reads. -/
def twoRuns : List (Bool × AccumulatorOp Bool Bool) :=
  [(true, .set true true), (false, .set true false), (true, .clear ⟨id, fun _ => .rfl⟩),
    (false, .get true), (true, .get true)]

/-- Of two accumulators one keeps its value though the other clears its own. -/
theorem accumulators_isolated_two :
    List.Forall₂ AgreesWith
      (shownOf false (serveAll twoKeys boolPickle twoAccumulators twoRuns ⟨[], List.nodup_nil⟩))
      [.ok .nothing, .ok (.value false)] := by
  refine accumulators_isolated twoKeys boolPickle twoIds twoAccumulators (fun i => ?_) ?_
    (fun i => ?_) (fun key => ?_) ⟨[], List.nodup_nil⟩ (fun key hkey => ?_) twoRuns false
  · cases i
    · with_unfolding_all rfl
    · with_unfolding_all rfl
  · decide
  · cases i
    · exact plainId_of_all rfl
    · exact plainId_of_all rfl
  · cases key
    · decide
    · decide
  · cases hkey

end Walkoff.Analysis
