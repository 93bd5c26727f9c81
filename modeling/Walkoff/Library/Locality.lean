import Walkoff.Library.Effect

/-!
# Steps that keep to one part of the state

Every label has a key, and `view k s` is the part of the state that belongs to the key `k`. A step is
local when it changes no other part than that of its label's key, and when what it does to that part,
and whether it raises, depends on that part alone. A run of local steps does to each part what the
steps of its key do to it on their own, and it raises only where one of these runs does.
-/

set_option autoImplicit false

namespace Walkoff.Library

variable {ε S L κ V : Type}

/-- A step that keeps to the part of its key, on labels `good` and under an invariant `I`. -/
structure Local (key : L → κ) (view : κ → S → V) (I : S → Prop) (good : L → Prop)
    (step : S → L → Except ε S) : Prop where
  keeps : ∀ s l t, I s → good l → step s l = .ok t → I t
  frame : ∀ s l t k, I s → good l → step s l = .ok t → k ≠ key l → view k t = view k s
  agrees : ∀ s s' l t, I s → I s' → good l → view (key l) s = view (key l) s' →
    step s l = .ok t → ∃ t', step s' l = .ok t' ∧ view (key l) t' = view (key l) t

namespace Local

variable {key : L → κ} {view : κ → S → V} {I : S → Prop} {good : L → Prop}
  {step : S → L → Except ε S}

/-- A run goes through exactly if its first step and the rest do. -/
theorem foldlM_cons_eq_ok {l : L} {ls : List L} {s t : S} :
    (l :: ls).foldlM step s = .ok t ↔ ∃ r, step s l = .ok r ∧ ls.foldlM step r = .ok t := by
  rw [List.foldlM_cons]
  exact Except.bind_eq_ok

variable [DecidableEq κ]

/-- The labels of a key, from a state with the same part, do the same to it. -/
theorem foldlM_filter (h : Local key view I good step) {ls : List L} (hgood : ∀ l ∈ ls, good l)
    (k : κ) {s s' t : S} (hs : I s) (hs' : I s') (hview : view k s = view k s')
    (hrun : ls.foldlM step s = .ok t) :
    ∃ t', (ls.filter (key · = k)).foldlM step s' = .ok t' ∧ view k t' = view k t := by
  induction ls generalizing s s' with
  | nil =>
    cases hrun
    exact ⟨s', rfl, hview.symm⟩
  | cons l ls ih =>
    obtain ⟨hl, hls⟩ := List.forall_mem_cons.mp hgood
    obtain ⟨r, hr, hrest⟩ := foldlM_cons_eq_ok.mp hrun
    have hrI := h.keeps s l r hs hl hr
    by_cases hk : key l = k
    · subst hk
      obtain ⟨r', hr', hsame⟩ := h.agrees s s' l r hs hs' hl hview hr
      obtain ⟨t', ht', hend⟩ := ih hls hrI (h.keeps s' l r' hs' hl hr') hsame.symm hrest
      rw [List.filter_cons_of_pos (by simp)]
      exact ⟨t', foldlM_cons_eq_ok.mpr ⟨r', hr', ht'⟩, hend⟩
    · have hframe := h.frame s l r k hs hl hr (Ne.symm hk)
      rw [List.filter_cons_of_neg (by simpa using hk)]
      exact ih hls hrI hs' (hframe.trans hview) hrest

/-- When the labels of every key run on their own, they run together. -/
theorem foldlM_of_filters (h : Local key view I good step) {ls : List L}
    (hgood : ∀ l ∈ ls, good l) {s : S} (hs : I s)
    (hruns : ∀ k, ∃ t, (ls.filter (key · = k)).foldlM step s = .ok t) :
    ∃ t, ls.foldlM step s = .ok t := by
  induction ls generalizing s with
  | nil => exact ⟨s, rfl⟩
  | cons l ls ih =>
    obtain ⟨hl, hls⟩ := List.forall_mem_cons.mp hgood
    obtain ⟨u, hu⟩ := hruns (key l)
    rw [List.filter_cons_of_pos (by simp)] at hu
    obtain ⟨r, hr, hrest⟩ := foldlM_cons_eq_ok.mp hu
    have hrI := h.keeps s l r hs hl hr
    have hall : ∀ k, ∃ t, (ls.filter (key · = k)).foldlM step r = .ok t := by
      intro k
      by_cases hk : key l = k
      · subst hk
        exact ⟨u, hrest⟩
      · obtain ⟨v, hv⟩ := hruns k
        rw [List.filter_cons_of_neg (by simpa using hk)] at hv
        have hframe := h.frame s l r k hs hl hr (Ne.symm hk)
        have hfilter : ∀ m ∈ ls.filter (key · = k), good m :=
          fun m hm => hls m (List.mem_filter.mp hm).1
        obtain ⟨v', hv', -⟩ := h.foldlM_filter hfilter k hs hrI hframe.symm hv
        rw [List.filter_filter] at hv'
        simp only [Bool.and_self] at hv'
        exact ⟨v', hv'⟩
    obtain ⟨t, ht⟩ := ih hls hrI hall
    exact ⟨t, foldlM_cons_eq_ok.mpr ⟨r, hr, ht⟩⟩

/-- **The rule of local steps**: a run succeeds exactly if the runs of all keys do, and then it leaves
in each part what the run of its key leaves there. -/
theorem foldlM_iff (h : Local key view I good step) {ls : List L} (hgood : ∀ l ∈ ls, good l)
    {s : S} (hs : I s) :
    ((∃ t, ls.foldlM step s = .ok t) ↔
        ∀ k, ∃ t, (ls.filter (key · = k)).foldlM step s = .ok t) ∧
      ∀ t, ls.foldlM step s = .ok t → ∀ k u, (ls.filter (key · = k)).foldlM step s = .ok u →
        view k u = view k t := by
  refine ⟨⟨?_, h.foldlM_of_filters hgood hs⟩, ?_⟩
  · rintro ⟨t, ht⟩ k
    obtain ⟨t', ht', -⟩ := h.foldlM_filter hgood k hs hs rfl ht
    exact ⟨t', ht'⟩
  · intro t ht k u hu
    obtain ⟨t', ht', hview⟩ := h.foldlM_filter hgood k hs hs rfl ht
    rw [hu] at ht'
    rw [Except.ok.inj ht']
    exact hview

end Local

end Walkoff.Library
