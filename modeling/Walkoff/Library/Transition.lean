import Mathlib.Data.List.Basic

/-!
# Runs of labelled transition systems

A system is a relation `step s l t`. `Run step s ls t` is a finite run with its labels.
An invariant of the steps is an invariant of the runs, and two runs of a deterministic
system from one state are comparable: one of them continues the other.
-/

set_option autoImplicit false

namespace Walkoff.Library

variable {S L : Type*} {step : S → L → S → Prop}

/-- A finite run and its labels. -/
inductive Run (step : S → L → S → Prop) : S → List L → S → Prop where
  | refl (s : S) : Run step s [] s
  | cons {s t u : S} {l : L} {ls : List L} (h : step s l t) (hs : Run step t ls u) :
    Run step s (l :: ls) u

namespace Run

/-- One step is a run. -/
theorem single {s t : S} {l : L} (h : step s l t) : Run step s [l] t :=
  .cons h (.refl t)

/-- Two runs are one. -/
theorem append {s t u : S} {ls ms : List L} (h : Run step s ls t) (h' : Run step t ms u) :
    Run step s (ls ++ ms) u := by
  induction h with
  | refl s => exact h'
  | cons hstep _ ih => exact .cons hstep (ih h')

/-- A run of some steps is a run of more. -/
theorem mono {step' : S → L → S → Prop} (h : ∀ s l t, step s l t → step' s l t) {s t : S}
    {ls : List L} (hrun : Run step s ls t) : Run step' s ls t := by
  induction hrun with
  | refl s => exact .refl s
  | cons hstep _ ih => exact .cons (h _ _ _ hstep) ih

/-- **The invariant rule**: what every step preserves, every run preserves. -/
theorem invariant {I : S → Prop} (h : ∀ s l t, I s → step s l t → I t) {s t : S}
    {ls : List L} (hrun : Run step s ls t) (hs : I s) : I t := by
  induction hrun with
  | refl s => exact hs
  | cons hstep _ ih => exact ih (h _ _ _ hs hstep)

/-- Where a label leads to one state at most, so do labels. -/
theorem functional (h : ∀ s l t t', step s l t → step s l t' → t = t') {s t t' : S} {ls : List L}
    (hrun : Run step s ls t) (hrun' : Run step s ls t') : t = t' := by
  induction hrun with
  | refl s =>
    cases hrun'
    rfl
  | cons hstep _ ih =>
    cases hrun' with
    | cons hstep' hrest' =>
      obtain rfl := h _ _ _ _ hstep hstep'
      exact ih hrest'

/-- **The history rule**: what holds of the empty history and is kept by a step, which makes the
history longer, holds of a run and its labels. -/
theorem history {I : List L → S → Prop} {s t : S} {ls : List L} (hrun : Run step s ls t)
    (hs : I [] s)
    (h : ∀ ls r l t, Run step s ls r → I ls r → step r l t → I (ls ++ [l]) t) : I ls t := by
  have hfrom : ∀ {r u : S} {ms : List L}, Run step r ms u → ∀ ls, Run step s ls r → I ls r →
      I (ls ++ ms) u := by
    intro r u ms hrest
    induction hrest with
    | refl r =>
      intro ls _ hr
      rwa [List.append_nil]
    | cons hstep _ ih =>
      intro ls hbefore hr
      rw [List.append_cons]
      exact ih _ (hbefore.append (.single hstep)) (h _ _ _ _ hbefore hr hstep)
  exact hfrom hrun [] (.refl s) hs

end Run

/-- The state after some labels, of a system given by a function. -/
def follow (next : S → L → Option S) : S → List L → Option S
  | s, [] => some s
  | s, l :: ls => (next s l).bind fun t => follow next t ls

/-- Following a function of steps is a run. -/
theorem Run.of_follow {next : S → L → Option S} {s t : S} {ls : List L}
    (h : follow next s ls = some t) : Run (fun s l t => next s l = some t) s ls t := by
  induction ls generalizing s with
  | nil =>
    obtain rfl := Option.some.inj h
    exact .refl s
  | cons l ls ih =>
    obtain ⟨r, hstep, hrest⟩ := Option.bind_eq_some_iff.mp h
    exact .cons hstep (ih hrest)

/-- A state that no step leaves. -/
def Stuck (step : S → L → S → Prop) (s : S) : Prop :=
  ∀ l t, ¬ step s l t

/-- From a stuck state there is only the empty run. -/
theorem Run.eq_of_stuck {s t : S} {ls : List L} (hs : Stuck step s) (h : Run step s ls t) :
    ls = [] ∧ t = s := by
  cases h with
  | refl => exact ⟨rfl, rfl⟩
  | cons hstep _ => exact absurd hstep (hs _ _)

/-- A state has at most one step. -/
def Deterministic (step : S → L → S → Prop) : Prop :=
  ∀ s l t m u, step s l t → step s m u → l = m ∧ t = u

/-- **Two runs of a deterministic system are comparable.** -/
theorem Run.comparable (hdet : Deterministic step) {s t u : S} {ls ms : List L}
    (h : Run step s ls t) (h' : Run step s ms u) :
    (∃ ns, ms = ls ++ ns ∧ Run step t ns u) ∨ (∃ ns, ls = ms ++ ns ∧ Run step u ns t) := by
  induction h generalizing ms with
  | refl s => exact .inl ⟨ms, rfl, h'⟩
  | cons hstep hrest ih =>
    cases h' with
    | refl => exact .inr ⟨_, rfl, .cons hstep hrest⟩
    | cons hstep' hrest' =>
      obtain ⟨rfl, rfl⟩ := hdet _ _ _ _ _ hstep hstep'
      rcases ih hrest' with ⟨ns, rfl, hrun⟩ | ⟨ns, rfl, hrun⟩
      · exact .inl ⟨ns, rfl, hrun⟩
      · exact .inr ⟨ns, rfl, hrun⟩

/-- Every state a run leaves is good. -/
def Along (step : S → L → S → Prop) (good : S → Prop) : S → L → S → Prop :=
  fun s l t => good s ∧ step s l t

/-- A run along good states is a run. -/
theorem Along.forget {good : S → Prop} {s t : S} {ls : List L}
    (h : Run (Along step good) s ls t) : Run step s ls t :=
  h.mono fun _ _ _ h => h.2

/-- Keeping to good states keeps steps deterministic. -/
theorem Deterministic.along (hdet : Deterministic step) (good : S → Prop) :
    Deterministic (Along step good) :=
  fun _ _ _ _ _ h h' => hdet _ _ _ _ _ h.2 h'.2

/-- A run all of whose states satisfy `I`. -/
def Always (step : S → L → S → Prop) (I : S → Prop) (s : S) (ls : List L) (t : S) : Prop :=
  Run (Along step I) s ls t ∧ I t

/-- The steps that meet a condition in the state they are taken in. -/
def Guarded (step : S → L → S → Prop) (ok : S → L → Prop) : S → L → S → Prop :=
  fun s l t => ok s l ∧ step s l t

/-- A run of guarded steps is a run. -/
theorem Guarded.forget {ok : S → L → Prop} {s t : S} {ls : List L}
    (h : Run (Guarded step ok) s ls t) : Run step s ls t :=
  h.mono fun _ _ _ h => h.2

/-- A run whose labels meet the condition in every state. -/
theorem Guarded.of_forall {ok : S → L → Prop} {s t : S} {ls : List L} (h : Run step s ls t)
    (hok : ∀ l ∈ ls, ∀ s, ok s l) : Run (Guarded step ok) s ls t := by
  induction h with
  | refl s => exact .refl s
  | cons hstep _ ih =>
    obtain ⟨hl, hls⟩ := List.forall_mem_cons.mp hok
    exact .cons ⟨hl _, hstep⟩ (ih hls)

/-- **The exact invariant rule**: when, under an invariant `J`, a step from a state with `I` keeps
`J` and keeps `I` exactly if it meets a condition, a run keeps `I` throughout exactly if all its
steps meet it. -/
theorem Run.always_iff {I J : S → Prop} {ok : S → L → Prop}
    (hJ : ∀ s l t, J s → I s → step s l t → J t)
    (h : ∀ s l t, J s → I s → step s l t → (I t ↔ ok s l)) {s t : S} {ls : List L} (hs : J s)
    (hs' : I s) : Always step I s ls t ↔ Run (Guarded step ok) s ls t := by
  constructor
  · rintro ⟨hrun, ht⟩
    induction hrun with
    | refl s => exact .refl s
    | @cons s r t l ls hstep hrest ih =>
      have hr : I r := by
        cases hrest with
        | refl => exact ht
        | cons hstep' _ => exact hstep'.1
      have hr' : J r := hJ _ _ _ hs hs' hstep.2
      exact .cons ⟨(h _ _ _ hs hs' hstep.2).mp hr, hstep.2⟩ (ih hr' hr ht)
  · intro hrun
    induction hrun with
    | refl s => exact ⟨.refl s, hs'⟩
    | cons hstep _ ih =>
      have hr := (h _ _ _ hs hs' hstep.2).mpr hstep.1
      obtain ⟨hrest, ht⟩ := ih (hJ _ _ _ hs hs' hstep.2) hr
      exact ⟨.cons ⟨hs', hstep.2⟩ hrest, ht⟩

/-- **The guarded invariant rule**: when, under an invariant `J`, a step that meets a condition keeps
`J` and `I`, a run of such steps satisfies `I` throughout. -/
theorem Run.always_of_guarded {I J : S → Prop} {ok : S → L → Prop}
    (h : ∀ s l t, J s → I s → ok s l → step s l t → J t ∧ I t) {s t : S} {ls : List L} (hs : J s)
    (hs' : I s) (hrun : Run (Guarded step ok) s ls t) : Always step I s ls t := by
  induction hrun with
  | refl s => exact ⟨.refl s, hs'⟩
  | cons hstep _ ih =>
    obtain ⟨hr, hr'⟩ := h _ _ _ hs hs' hstep.1 hstep.2
    obtain ⟨hrest, ht⟩ := ih hr hr'
    exact ⟨.cons ⟨hs', hstep.2⟩ hrest, ht⟩

/-- In a deterministic system, a state reached on the way of a run through good states to a
good state is good. -/
theorem Run.good_of_prefix (hdet : Deterministic step) {good : S → Prop} {s t u : S}
    {ls ms ns : List L} (h : Run (Along step good) s ms u) (hu : good u)
    (hpre : Run step s ls t) (hms : ms = ls ++ ns) (hrest : Run step t ns u) : good t := by
  induction hpre generalizing ms with
  | refl s =>
    cases hrest with
    | refl => exact hu
    | cons hstep _ =>
      subst hms
      cases h with
      | cons hstep' _ => exact hstep'.1
  | cons hstep _ ih =>
    subst hms
    cases h with
    | cons hstep' hrest' =>
      obtain ⟨-, rfl⟩ := hdet _ _ _ _ _ hstep hstep'.2
      exact ih hrest' rfl hrest

end Walkoff.Library
