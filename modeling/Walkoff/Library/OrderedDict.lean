import Mathlib.Data.Int.Notation
import Mathlib.Data.List.Basic
import Mathlib.Data.List.Nodup

/-!
# Insertion-ordered dictionaries

A dictionary is the list of its items in the order in which the keys were first set.
Setting a key that is present keeps its place; `pop` forgets the key.
-/

set_option autoImplicit false

namespace Walkoff.Library

/-- The items of a dictionary, oldest key first. -/
abbrev OrderedDict (α β : Type*) := List (α × β)

namespace OrderedDict

variable {α β : Type*} [DecidableEq α]

/-- The value of a key, if it is present. -/
def get? (k : α) : OrderedDict α β → Option β
  | [] => none
  | (l, v) :: d => if l = k then some v else get? k d

/-- Set a key: in place when it is present, at the end otherwise. -/
def set (k : α) (v : β) : OrderedDict α β → OrderedDict α β
  | [] => [(k, v)]
  | (l, w) :: d => if l = k then (l, v) :: d else (l, w) :: set k v d

/-- Set the items of a list one after the other, so that the last of two equal keys wins. -/
def update (d : OrderedDict α β) (items : List (α × β)) : OrderedDict α β :=
  items.foldl (fun d item => set item.1 item.2 d) d

/-- Remove a key. -/
def pop (k : α) (d : OrderedDict α β) : OrderedDict α β :=
  d.filter fun item => item.1 ≠ k

/-- The keys, oldest first. -/
def keys (d : OrderedDict α β) : List α :=
  d.map Prod.fst

/-- An empty dictionary has no keys. -/
@[simp] theorem get?_nil (k : α) : get? k ([] : OrderedDict α β) = none := rfl

/-- A key that was set has its value. -/
@[simp] theorem get?_set_self (k : α) (v : β) (d : OrderedDict α β) :
    get? k (set k v d) = some v := by
  induction d with
  | nil => simp [set, get?]
  | cons item d ih =>
    by_cases h : item.1 = k
    · simp [set, get?, h]
    · simp [set, get?, h, ih]

/-- Other keys keep theirs. -/
theorem get?_set_of_ne {k l : α} (h : l ≠ k) (v : β) (d : OrderedDict α β) :
    get? l (set k v d) = get? l d := by
  induction d with
  | nil => simp [set, get?, h.symm]
  | cons item d ih =>
    by_cases hk : item.1 = k
    · simp [set, get?, hk, h.symm]
    · simp [set, get?, hk, ih]

/-- What is found after setting a key. -/
theorem get?_set (k l : α) (v : β) (d : OrderedDict α β) :
    get? l (set k v d) = if l = k then some v else get? l d := by
  by_cases h : l = k
  · simp [h]
  · simp [h, get?_set_of_ne h]

/-- Setting a key to the value it already has changes nothing. -/
theorem set_eq_self {k : α} {v : β} {d : OrderedDict α β} (h : get? k d = some v) :
    set k v d = d := by
  induction d with
  | nil => simp at h
  | cons item d ih =>
    obtain ⟨l, w⟩ := item
    by_cases hk : l = k
    · simp only [get?, hk, if_true, Option.some.injEq] at h
      simp [set, hk, h]
    · simp only [get?, hk, if_false] at h
      simp [set, hk, ih h]

/-- The second of two values set for one key is the one that counts. -/
@[simp] theorem set_set (k : α) (v w : β) (d : OrderedDict α β) :
    set k w (set k v d) = set k w d := by
  induction d with
  | nil => simp [set]
  | cons item d ih =>
    by_cases hk : item.1 = k
    · simp [set, hk]
    · simp [set, hk, ih]

/-- The items whose keys are of one kind, after a key of it has been set. -/
theorem filter_set_of_pos {q : α → Bool} {k : α} (h : q k = true) (v : β)
    (d : OrderedDict α β) :
    (set k v d).filter (q ·.1) = set k v (d.filter (q ·.1)) := by
  induction d with
  | nil => simp [set, h]
  | cons item d ih =>
    by_cases hk : item.1 = k
    · simp [set, hk, h]
    · by_cases hq : q item.1 = true
      · simp [set, hk, hq, ih]
      · simp [set, hk, hq, ih]

/-- The items whose keys are of one kind, after another key has been set. -/
theorem filter_set_of_neg {q : α → Bool} {k : α} (h : q k = false) (v : β)
    (d : OrderedDict α β) : (set k v d).filter (q ·.1) = d.filter (q ·.1) := by
  induction d with
  | nil => simp [set, h]
  | cons item d ih =>
    by_cases hk : item.1 = k
    · simp [set, hk, h]
    · by_cases hq : q item.1 = true
      · simp [set, hk, hq, ih]
      · simp [set, hk, hq, ih]

/-- A key that is kept is found as before. -/
theorem get?_filter_of_pos {q : α → Bool} {k : α} (h : q k = true) (d : OrderedDict α β) :
    get? k (d.filter (q ·.1)) = get? k d := by
  induction d with
  | nil => rfl
  | cons item d ih =>
    by_cases hk : item.1 = k
    · simp [get?, hk, h]
    · by_cases hq : q item.1 = true
      · simp [get?, hk, hq, ih]
      · simp [get?, hk, hq, ih]

/-- A key is one of a dictionary exactly if it has a value. -/
theorem mem_keys_iff (k : α) (d : OrderedDict α β) : k ∈ keys d ↔ (get? k d).isSome := by
  induction d with
  | nil => simp [keys]
  | cons item d ih =>
    by_cases h : item.1 = k
    · simp [keys, get?, h]
    · simp only [keys, List.map_cons, List.mem_cons, get?, h, if_false]
      rw [← ih, keys]
      exact or_iff_right (Ne.symm h)

/-- Setting a key adds it. -/
theorem mem_keys_set (k l : α) (v : β) (d : OrderedDict α β) :
    l ∈ keys (set k v d) ↔ l = k ∨ l ∈ keys d := by
  rw [mem_keys_iff, mem_keys_iff, get?_set]
  by_cases h : l = k <;> simp [h]

/-- Setting a key that is there keeps the keys. -/
theorem keys_set_of_mem {k : α} {d : OrderedDict α β} (h : k ∈ keys d) (v : β) :
    keys (set k v d) = keys d := by
  induction d with
  | nil => simp [keys] at h
  | cons item d ih =>
    by_cases hk : item.1 = k
    · simp [keys, set, hk]
    · have hmem : k ∈ keys d := by simpa [keys, Ne.symm hk] using h
      simpa [keys, set, hk] using ih hmem

/-- A new key goes to the end. -/
theorem set_of_not_mem {k : α} {d : OrderedDict α β} (h : k ∉ keys d) (v : β) :
    set k v d = d ++ [(k, v)] := by
  induction d with
  | nil => rfl
  | cons item d ih =>
    rw [keys, List.map_cons, List.mem_cons, not_or] at h
    rw [set, if_neg (Ne.symm h.1), ih h.2, List.cons_append]

/-- A key that the front does not have is set behind it. -/
theorem set_append_of_not_mem {k : α} {xs : OrderedDict α β} (h : k ∉ keys xs) (v : β)
    (ys : OrderedDict α β) : set k v (xs ++ ys) = xs ++ set k v ys := by
  induction xs with
  | nil => rfl
  | cons item xs ih =>
    obtain ⟨hne, hxs⟩ : k ≠ item.1 ∧ k ∉ keys xs := by simpa [keys] using h
    rw [List.cons_append, List.cons_append, ← ih hxs]
    exact if_neg hne.symm

/-- A key that the front does not have is found behind it. -/
theorem get?_append_of_not_mem {k : α} {xs : OrderedDict α β} (h : k ∉ keys xs)
    (ys : OrderedDict α β) : get? k (xs ++ ys) = get? k ys := by
  induction xs with
  | nil => rfl
  | cons item xs ih =>
    obtain ⟨hne, hxs⟩ : k ≠ item.1 ∧ k ∉ keys xs := by simpa [keys] using h
    rw [List.cons_append, ← ih hxs]
    exact if_neg hne.symm

/-- A key has no value exactly if it is none of the dictionary. -/
theorem get?_eq_none_iff {k : α} {d : OrderedDict α β} : get? k d = none ↔ k ∉ keys d := by
  rw [mem_keys_iff, Option.not_isSome_iff_eq_none]

/-- What is found is an item. -/
theorem mem_of_get? {k : α} {v : β} {d : OrderedDict α β} (h : get? k d = some v) :
    (k, v) ∈ d := by
  induction d with
  | nil => cases h
  | cons item d ih =>
    obtain ⟨l, w⟩ := item
    by_cases hl : l = k
    · have hw : w = v := by
        simpa [get?, hl] using h
      rw [hl, hw]
      exact List.mem_cons_self
    · apply List.mem_cons_of_mem
      apply ih
      simpa [get?, hl] using h

/-- When the keys are distinct every item is the entry of its key. -/
theorem get?_of_mem {k : α} {v : β} {d : OrderedDict α β} (hkeys : (keys d).Nodup)
    (h : (k, v) ∈ d) : get? k d = some v := by
  induction d with
  | nil => cases h
  | cons item d ih =>
    obtain ⟨hnew, hkeys⟩ := List.nodup_cons.mp hkeys
    rcases List.mem_cons.mp h with rfl | h
    · exact if_pos rfl
    · have hne : item.1 ≠ k := by
        rintro rfl
        exact hnew (List.mem_map.mpr ⟨_, h, rfl⟩)
      exact (if_neg hne).trans (ih hkeys h)

/-- The first entry of a key, as core's `lookup` finds it. -/
theorem get?_eq_lookup [BEq α] [LawfulBEq α] (k : α) (d : OrderedDict α β) :
    get? k d = d.lookup k := by
  induction d with
  | nil => rfl
  | cons item d ih =>
    obtain ⟨l, w⟩ := item
    rw [get?, List.lookup_cons]
    by_cases hl : l = k
    · simp [hl]
    · have hne : (k == l) = false := by
        simpa using Ne.symm hl
      rw [if_neg hl, hne]
      exact ih

/-- A new key comes last. -/
theorem keys_set_of_not_mem {k : α} {d : OrderedDict α β} (h : k ∉ keys d) (v : β) :
    keys (set k v d) = keys d ++ [k] := by
  rw [set_of_not_mem h, keys, List.map_append, List.map_singleton, keys]

/-- Setting keeps the keys distinct. -/
theorem nodup_keys_set {k : α} {d : OrderedDict α β} (h : (keys d).Nodup) (v : β) :
    (keys (set k v d)).Nodup := by
  by_cases hk : k ∈ keys d
  · rwa [keys_set_of_mem hk]
  · rw [keys_set_of_not_mem hk]
    exact List.Nodup.append h (List.nodup_singleton k) (by simpa using hk)

/-- Items with new and distinct keys go to the end in their order. -/
theorem update_of_nodup {d : OrderedDict α β} {items : List (α × β)}
    (h : (keys d ++ items.map Prod.fst).Nodup) : update d items = d ++ items := by
  induction items generalizing d with
  | nil => simp [update]
  | cons item items ih =>
    have hnew : item.1 ∉ keys d := by
      intro hmem
      exact (List.nodup_append.mp h).2.2 _ hmem _ (by simp) rfl
    have hset : set item.1 item.2 d = d ++ [item] := set_of_not_mem hnew item.2
    show update (set item.1 item.2 d) items = d ++ item :: items
    rw [hset, ih, List.append_assoc, List.singleton_append]
    simpa [keys] using h

/-- After setting, an item is the new one or an old one. -/
theorem mem_set {k : α} {v : β} {item : α × β} {d : OrderedDict α β} (h : item ∈ set k v d) :
    item = (k, v) ∨ item ∈ d := by
  induction d with
  | nil => exact .inl (List.mem_singleton.mp h)
  | cons other d ih =>
    rw [set] at h
    split at h
    · rename_i hk
      rcases List.mem_cons.mp h with rfl | h
      · exact .inl (by rw [hk])
      · exact .inr (List.mem_cons_of_mem _ h)
    · rcases List.mem_cons.mp h with rfl | h
      · exact .inr List.mem_cons_self
      · exact (ih h).imp id (List.mem_cons_of_mem _)

/-- Updates are made one after another. -/
theorem update_append (d : OrderedDict α β) (items more : List (α × β)) :
    update d (items ++ more) = update (update d items) more :=
  List.foldl_append

/-- An update with one item sets it. -/
theorem update_singleton (d : OrderedDict α β) (item : α × β) :
    update d [item] = set item.1 item.2 d := rfl

/-- A key that is not among the items keeps its value. -/
theorem get?_update_of_not_mem {k : α} {items : List (α × β)} (h : k ∉ items.map Prod.fst)
    (d : OrderedDict α β) : get? k (update d items) = get? k d := by
  induction items generalizing d with
  | nil => rfl
  | cons item items ih =>
    rw [List.map_cons, List.mem_cons, not_or] at h
    exact (ih h.2 _).trans (get?_set_of_ne h.1 item.2 d)

/-- Every item comes from one of the two. -/
theorem mem_update {item : α × β} {d : OrderedDict α β} {items : List (α × β)}
    (h : item ∈ update d items) : item ∈ d ∨ item ∈ items := by
  induction items generalizing d with
  | nil => exact .inl h
  | cons other items ih =>
    rcases ih h with hset | hitems
    · rcases mem_set hset with rfl | hd
      · exact .inr List.mem_cons_self
      · exact .inl hd
    · exact .inr (List.mem_cons_of_mem _ hitems)

/-- An update adds its keys. -/
theorem mem_keys_update (k : α) (d : OrderedDict α β) (items : List (α × β)) :
    k ∈ keys (update d items) ↔ k ∈ keys d ∨ k ∈ items.map Prod.fst := by
  induction items generalizing d with
  | nil => simp [update]
  | cons item items ih =>
    have hset := ih (set item.1 item.2 d)
    rw [mem_keys_set] at hset
    rw [List.map_cons, List.mem_cons]
    exact hset.trans (by tauto)

/-- An update keeps the keys distinct. -/
theorem nodup_keys_update {d : OrderedDict α β} (h : (keys d).Nodup) (items : List (α × β)) :
    (keys (update d items)).Nodup := by
  induction items generalizing d with
  | nil => exact h
  | cons item items ih => exact ih (nodup_keys_set h item.2)

/-- Popping takes the key out. -/
theorem keys_pop (k : α) (d : OrderedDict α β) : keys (pop k d) = (keys d).filter (· ≠ k) := by
  simp [keys, pop, List.filter_map, Function.comp_def]

/-- Popping keeps the keys distinct. -/
theorem nodup_keys_pop {k : α} {d : OrderedDict α β} (h : (keys d).Nodup) :
    (keys (pop k d)).Nodup := by
  rw [keys_pop]
  exact h.filter _

/-- A popped key is gone. -/
theorem not_mem_keys_pop (k : α) (d : OrderedDict α β) : k ∉ keys (pop k d) := by
  simp [keys_pop]

/-- Popping goes item by item. -/
theorem pop_cons (k : α) (item : α × β) (d : OrderedDict α β) :
    pop k (item :: d) = if item.1 = k then pop k d else item :: pop k d := by
  by_cases h : item.1 = k <;> simp [pop, h]

/-- What is found after popping a key. -/
theorem get?_pop (k l : α) (d : OrderedDict α β) :
    get? l (pop k d) = if l = k then none else get? l d := by
  induction d with
  | nil => simp [pop]
  | cons item d ih =>
    rw [pop_cons]
    by_cases hk : item.1 = k
    · rw [if_pos hk, ih]
      by_cases hl : l = k
      · simp [hl]
      · simp [hl, get?, hk, Ne.symm hl]
    · rw [if_neg hk]
      by_cases hl : item.1 = l
      · have hlk : l ≠ k := hl ▸ hk
        simp [get?, hl, hlk]
      · simp [get?, hl, ih]

/-- Popping a key that is not there changes nothing. -/
theorem pop_of_get?_none {k : α} {d : OrderedDict α β} (h : get? k d = none) : pop k d = d := by
  have hk : k ∉ keys d := by
    rw [mem_keys_iff, h]
    exact Bool.false_ne_true
  apply List.filter_eq_self.mpr
  intro item hitem
  have hne : item.1 ≠ k := fun heq => hk (heq ▸ List.mem_map_of_mem hitem)
  simpa using hne

/-- A change of all values is found under every key. -/
theorem get?_mapRows (f : α → β → β) (k : α) (d : OrderedDict α β) :
    get? k (d.map fun row => (row.1, f row.1 row.2)) = (get? k d).map (f k) := by
  induction d with
  | nil => rfl
  | cons row d ih =>
    by_cases hk : row.1 = k
    · simp [get?, hk]
    · simp [get?, hk, ih]

omit [DecidableEq α] in
/-- A change of all values keeps the keys. -/
theorem keys_mapRows (f : α → β → β) (d : OrderedDict α β) :
    keys (d.map fun row => (row.1, f row.1 row.2)) = keys d := by
  simp [keys, Function.comp_def]

/-- The key that a table of rows with numbers as keys gives to its next row. -/
def nextId (table : OrderedDict ℤ β) : ℤ :=
  table.keys.foldr max 0 + 1

/-- The greatest number bounds the others. -/
theorem le_foldr_max {ks : List ℤ} {k : ℤ} (h : k ∈ ks) : k ≤ ks.foldr max 0 := by
  induction ks with
  | nil => cases h
  | cons l ks ih =>
    rw [List.foldr_cons]
    rcases List.mem_cons.mp h with rfl | h
    · exact Int.le_max_left _ _
    · exact Int.le_trans (ih h) (Int.le_max_right _ _)

/-- The next id is new. -/
theorem nextId_not_mem (table : OrderedDict ℤ β) : nextId table ∉ table.keys := by
  intro h
  have hle := le_foldr_max h
  unfold nextId at hle
  omega

end OrderedDict

end Walkoff.Library
