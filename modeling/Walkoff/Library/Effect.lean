import Mathlib.Logic.Basic
import Mathlib.Order.Defs.Unbundled
import Mathlib.Data.List.Basic

/-!
# Rules for computations that may raise

Stateful code with exceptions is written in core's `EStateM ε σ`: the state survives a
raise. This file holds the rules by which such code is verified.

* `Ends Q E r`: if `r` is a return it satisfies `Q`, and if it is a raise `E`.
* `Yields I m a`: from every state of the invariant `I`, `m` returns `a` and keeps `I`.
* `Within R m`: whichever way `m` ends, its last state is related to its first by `R`; for a
  preorder `R` these compose (frame conditions, growing logs).
* `Agree R m₁ m₂`: from states related by `R` the two computations end the same way, with
  the same value or exception, in related states.
-/

set_option autoImplicit false

namespace Walkoff.Library

variable {ε σ α β : Type}

/-- Run a pure computation that may raise. -/
def lift (x : Except ε α) : EStateM ε σ α := fun s =>
  match x with
  | .ok a => .ok a s
  | .error e => .error e s

/-- A sequence succeeds exactly if both parts do. -/
theorem Except.bind_eq_ok {x : Except ε α} {f : α → Except ε β} {b : β} :
    x >>= f = .ok b ↔ ∃ a, x = .ok a ∧ f a = .ok b := by
  cases x with
  | error e => exact ⟨fun h => (by cases h), fun ⟨_, h, _⟩ => (by cases h)⟩
  | ok a => exact ⟨fun h => ⟨a, rfl, h⟩, fun ⟨_, h, hf⟩ => (by cases h; exact hf)⟩

/-- A sequence fails exactly if one part does. -/
theorem Except.bind_eq_error {x : Except ε α} {f : α → Except ε β} {e : ε} :
    x >>= f = .error e ↔ x = .error e ∨ ∃ a, x = .ok a ∧ f a = .error e := by
  cases x with
  | error e' =>
    constructor
    · intro h
      exact .inl (congrArg Except.error (Except.error.inj h))
    · rintro (h | ⟨_, h, _⟩)
      · exact congrArg Except.error (Except.error.inj h)
      · cases h
  | ok a =>
    constructor
    · intro h
      exact .inr ⟨a, rfl, h⟩
    · rintro (h | ⟨_, h, hf⟩)
      · cases h
      · cases h
        exact hf

/-- A list goes through if its head and its tail do. -/
theorem Except.mapM_cons_ok {f : α → Except ε β} {a : α} {as : List α} {b : β} {bs : List β}
    (h : f a = .ok b) (hs : as.mapM f = .ok bs) : (a :: as).mapM f = .ok (b :: bs) := by
  rw [List.mapM_cons, h]
  exact Except.bind_eq_ok.mpr ⟨b, rfl, Except.bind_eq_ok.mpr ⟨bs, hs, rfl⟩⟩

/-- A list goes through exactly if its head and its tail do. -/
theorem Except.mapM_cons_eq_ok {f : α → Except ε β} {a : α} {as : List α} {bs : List β} :
    (a :: as).mapM f = .ok bs ↔ ∃ b bs', f a = .ok b ∧ as.mapM f = .ok bs' ∧ bs = b :: bs' := by
  rw [List.mapM_cons, Except.bind_eq_ok]
  refine exists_congr fun b => ?_
  rw [Except.bind_eq_ok]
  constructor
  · rintro ⟨h, bs', hs, hcons⟩
    exact ⟨bs', h, hs, (Except.ok.inj hcons).symm⟩
  · rintro ⟨bs', h, hs, rfl⟩
    exact ⟨h, bs', hs, rfl⟩

/-- A list raises what its first element raises, or else what the rest raises. -/
theorem Except.mapM_cons_eq_error {f : α → Except ε β} {a : α} {as : List α} {e : ε} :
    (a :: as).mapM f = .error e ↔
      f a = .error e ∨ ∃ b, f a = .ok b ∧ as.mapM f = .error e := by
  rw [List.mapM_cons, Except.bind_eq_error]
  refine or_congr_right (exists_congr fun b => and_congr_right fun _ => ?_)
  rw [Except.bind_eq_error]
  constructor
  · rintro (h | ⟨_, _, h⟩)
    · exact h
    · cases h
  · intro h
    exact .inl h

/-- Renaming what a list raises. -/
theorem Except.mapError_mapM {ε' : Type} (g : ε → ε') (f : α → Except ε β) (as : List α) :
    (as.mapM f).mapError g = as.mapM fun a => (f a).mapError g := by
  induction as with
  | nil => rfl
  | cons a as ih =>
    rw [List.mapM_cons, List.mapM_cons, ← ih]
    cases f a with
    | error e => rfl
    | ok b =>
      cases as.mapM f with
      | error e => rfl
      | ok bs => rfl

/-- Each element of a result comes from one of the list. -/
theorem Except.exists_of_mem_mapM {f : α → Except ε β} {as : List α} {bs : List β}
    (h : as.mapM f = .ok bs) {b : β} (hb : b ∈ bs) : ∃ a ∈ as, f a = .ok b := by
  induction as generalizing bs with
  | nil =>
    cases h
    exact absurd hb List.not_mem_nil
  | cons a as ih =>
    obtain ⟨c, cs, hc, hcs, rfl⟩ := Except.mapM_cons_eq_ok.mp h
    rcases List.mem_cons.mp hb with rfl | hb
    · exact ⟨a, List.mem_cons_self, hc⟩
    · obtain ⟨a', ha', hb'⟩ := ih hcs hb
      exact ⟨a', List.mem_cons_of_mem _ ha', hb'⟩

/-- Each element of a list with a result has one. -/
theorem Except.ok_of_mem_mapM {f : α → Except ε β} {as : List α} {bs : List β}
    (h : as.mapM f = .ok bs) {a : α} (ha : a ∈ as) : ∃ b, f a = .ok b := by
  induction as generalizing bs with
  | nil => cases ha
  | cons c cs ih =>
    obtain ⟨b, bs', hb, hbs, rfl⟩ := Except.mapM_cons_eq_ok.mp h
    rcases List.mem_cons.mp ha with rfl | ha
    · exact ⟨b, hb⟩
    · exact ih hbs ha

/-- What follows on each result of a list follows on the list of results. -/
theorem Except.mapM_of_mapM_ok {γ : Type} {f : α → Except ε β} {g : β → Except ε γ}
    {h : α → Except ε γ} {as : List α} {bs : List β} (hok : as.mapM f = .ok bs)
    (hgh : ∀ a b, f a = .ok b → g b = h a) : bs.mapM g = as.mapM h := by
  induction as generalizing bs with
  | nil =>
    cases hok
    rfl
  | cons a as ih =>
    obtain ⟨b, bs', hb, hbs, rfl⟩ := Except.mapM_cons_eq_ok.mp hok
    rw [List.mapM_cons, List.mapM_cons, hgh a b hb, ih hbs]

/-- A list whose members go through as they are does. -/
theorem Except.mapM_eq_self {f : α → Except ε α} {as : List α} (h : ∀ a ∈ as, f a = .ok a) :
    as.mapM f = .ok as := by
  induction as with
  | nil => rfl
  | cons a as ih =>
    obtain ⟨ha, has⟩ := List.forall_mem_cons.mp h
    exact Except.mapM_cons_ok ha (ih has)

/-- A list has results when each element has one, and what holds of each result, or holds of it
exactly if it does of the element, does so for the lists. -/
theorem Except.mapM_of_forall {f : α → Except ε β} {P Q : β → Prop} {R : α → Prop} {as : List α}
    (h : ∀ a ∈ as, ∃ b, f a = .ok b ∧ P b ∧ (Q b ↔ R a)) :
    ∃ bs, as.mapM f = .ok bs ∧ (∀ b ∈ bs, P b) ∧ ((∀ b ∈ bs, Q b) ↔ ∀ a ∈ as, R a) := by
  induction as with
  | nil => exact ⟨[], rfl, List.forall_mem_nil _, by simp⟩
  | cons a as ih =>
    obtain ⟨ha, has⟩ := List.forall_mem_cons.mp h
    obtain ⟨b, hb, hP, hQ⟩ := ha
    obtain ⟨bs, hbs, hPs, hQs⟩ := ih has
    refine ⟨b :: bs, Except.mapM_cons_ok hb hbs, List.forall_mem_cons.mpr ⟨hP, hPs⟩, ?_⟩
    rw [List.forall_mem_cons, List.forall_mem_cons, hQ, hQs]

/-- What is read of each result is what is read of the element it comes from. -/
theorem Except.map_of_mapM_ok {γ : Type} {f : α → Except ε β} {g : β → γ} {h : α → γ}
    {as : List α} {bs : List β} (hok : as.mapM f = .ok bs)
    (hgh : ∀ a ∈ as, ∀ b, f a = .ok b → g b = h a) : bs.map g = as.map h := by
  induction as generalizing bs with
  | nil =>
    cases hok
    rfl
  | cons a as ih =>
    obtain ⟨b, bs', hb, hbs, rfl⟩ := Except.mapM_cons_eq_ok.mp hok
    obtain ⟨ha, has⟩ := List.forall_mem_cons.mp hgh
    rw [List.map_cons, List.map_cons, ha b hb, ih hbs has]

/-- A fold that succeeds does so at every element. -/
theorem Except.ok_of_mem_foldlM {f : β → α → Except ε β} {as : List α} {b c : β}
    (h : as.foldlM f b = .ok c) {a : α} (ha : a ∈ as) : ∃ before after, f before a = .ok after := by
  induction as generalizing b with
  | nil => cases ha
  | cons a' as ih =>
    rw [List.foldlM_cons] at h
    obtain ⟨next, hnext, hrest⟩ := Except.bind_eq_ok.mp h
    rcases List.mem_cons.mp ha with rfl | hmem
    · exact ⟨b, next, hnext⟩
    · exact ih hrest hmem

/-- A loop goes through exactly if every turn does. -/
theorem Except.forM_eq_ok {f : α → Except ε Unit} {as : List α} :
    as.forM f = .ok ⟨⟩ ↔ ∀ a ∈ as, f a = .ok ⟨⟩ := by
  induction as with
  | nil => exact ⟨fun _ a h => (by cases h), fun _ => rfl⟩
  | cons a as ih =>
    rw [List.forall_mem_cons, ← ih]
    show (f a >>= fun _ => as.forM f) = .ok ⟨⟩ ↔ _
    rw [Except.bind_eq_ok]
    exact ⟨fun ⟨_, ha, has⟩ => ⟨ha, has⟩, fun ⟨ha, has⟩ => ⟨⟨⟩, ha, has⟩⟩

/-! ## Equations -/

/-- A sequence goes on with what the first part left. -/
theorem bind_apply (m : EStateM ε σ α) (f : α → EStateM ε σ β) (s : σ) :
    (m >>= f) s = match m s with
      | .ok a s' => f a s'
      | .error e s' => .error e s' := rfl

/-- Returning leaves the state. -/
@[simp] theorem pure_apply (a : α) (s : σ) : (pure a : EStateM ε σ α) s = .ok a s := rfl

/-- Raising leaves the state. -/
@[simp] theorem throw_apply (e : ε) (s : σ) : (throw e : EStateM ε σ α) s = .error e s := rfl

/-- Reading gives the state. -/
@[simp] theorem get_apply (s : σ) : (get : EStateM ε σ σ) s = .ok s s := rfl

/-- Modifying changes the state. -/
@[simp] theorem modify_apply (f : σ → σ) (s : σ) :
    (modify f : EStateM ε σ PUnit) s = .ok ⟨⟩ (f s) := rfl

/-- What a handler does with the state that a raise leaves. -/
theorem tryCatch_apply (m : EStateM ε σ α) (handle : ε → EStateM ε σ α) (s : σ) :
    tryCatch m handle s = match m s with
      | .ok a s' => .ok a s'
      | .error e s' => handle e s' := by
  show EStateM.tryCatch m handle s = _
  unfold EStateM.tryCatch
  cases m s <;> rfl

/-- After a part that returned the sequence goes on. -/
theorem bind_of_ok {m : EStateM ε σ α} {f : α → EStateM ε σ β} {s s' : σ} {a : α}
    (h : m s = .ok a s') : (m >>= f) s = f a s' := by
  rw [bind_apply, h]

/-- After a part that raised the sequence has raised. -/
theorem bind_of_error {m : EStateM ε σ α} {f : α → EStateM ε σ β} {s s' : σ} {e : ε}
    (h : m s = .error e s') : (m >>= f) s = .error e s' := by
  rw [bind_apply, h]

/-- A sequence returns exactly if both parts do. -/
theorem bind_eq_ok {m : EStateM ε σ α} {f : α → EStateM ε σ β} {s s' : σ} {b : β} :
    (m >>= f) s = .ok b s' ↔ ∃ a t, m s = .ok a t ∧ f a t = .ok b s' := by
  rw [bind_apply]
  cases h : m s with
  | ok a t => exact ⟨fun hf => ⟨a, t, rfl, hf⟩, fun ⟨_, _, h', hf⟩ => by cases h'; exact hf⟩
  | error e t => exact ⟨fun hf => (by cases hf), fun ⟨_, _, h', _⟩ => by cases h'⟩

/-- A list goes through exactly if its head and its tail do. -/
theorem mapM_cons_eq_ok {γ : Type} {f : γ → EStateM ε σ β} {c : γ} {cs : List γ} {bs : List β}
    {s s' : σ} :
    (c :: cs).mapM f s = .ok bs s' ↔
      ∃ b t bs', f c s = .ok b t ∧ cs.mapM f t = .ok bs' s' ∧ bs = b :: bs' := by
  rw [List.mapM_cons]
  constructor
  · intro h
    obtain ⟨b, t, hb, hrest⟩ := bind_eq_ok.mp h
    obtain ⟨bs', t', hbs, hresult⟩ := bind_eq_ok.mp hrest
    cases hresult
    exact ⟨b, t, bs', hb, hbs, rfl⟩
  · rintro ⟨b, t, bs', hb, hbs, rfl⟩
    rw [bind_of_ok hb]
    exact bind_of_ok hbs

/-- A sequence raises exactly if one part does. -/
theorem bind_eq_error {m : EStateM ε σ α} {f : α → EStateM ε σ β} {s s' : σ} {e : ε} :
    (m >>= f) s = .error e s' ↔
      m s = .error e s' ∨ ∃ a t, m s = .ok a t ∧ f a t = .error e s' := by
  rw [bind_apply]
  cases h : m s with
  | ok a t =>
    refine ⟨fun hf => .inr ⟨a, t, rfl, hf⟩, ?_⟩
    rintro (h' | ⟨_, _, h', hf⟩)
    · cases h'
    · cases h'
      exact hf
  | error e' t =>
    refine ⟨fun hf => .inl (by cases hf; rfl), ?_⟩
    rintro (h' | ⟨_, _, h', _⟩)
    · cases h'
      rfl
    · cases h'

/-! ## Pre- and postconditions -/

/-- Returns satisfy `Q`, raises satisfy `E`. -/
def Ends (Q : α → σ → Prop) (E : ε → σ → Prop) : EStateM.Result ε σ α → Prop
  | .ok a s => Q a s
  | .error e s => E e s

namespace Ends

variable {Q Q' : α → σ → Prop} {E E' : ε → σ → Prop}

/-- An end can be described more widely. -/
theorem mono {r : EStateM.Result ε σ α} (h : Ends Q E r) (hQ : ∀ a s, Q a s → Q' a s)
    (hE : ∀ e s, E e s → E' e s) : Ends Q' E' r := by
  cases r with
  | ok a s => exact hQ a s h
  | error e s => exact hE e s h

/-- What is known of one end in two ways. -/
theorem and {r : EStateM.Result ε σ α} (h : Ends Q E r) (h' : Ends Q' E' r) :
    Ends (fun a s => Q a s ∧ Q' a s) (fun e s => E e s ∧ E' e s) r := by
  cases r with
  | ok a s => exact ⟨h, h'⟩
  | error e s => exact ⟨h, h'⟩

/-- The rule of sequencing for one run. -/
theorem bind {m : EStateM ε σ α} {f : α → EStateM ε σ β} {R : β → σ → Prop} {s : σ}
    (hm : Ends Q E (m s)) (hf : ∀ a t, Q a t → Ends R E' (f a t))
    (hE : ∀ e t, E e t → E' e t) : Ends R E' ((m >>= f) s) := by
  rw [bind_apply]
  cases hms : m s with
  | ok a t =>
    rw [hms] at hm
    exact hf a t hm
  | error e t =>
    rw [hms] at hm
    exact hE e t hm

/-- A computation whose value is dropped. -/
theorem discard {m : EStateM ε σ α} {s : σ} (h : Ends Q E (m s)) :
    Ends (fun _ t => ∃ a, Q a t) E (Functor.discard m s) := by
  show Ends _ E ((m >>= fun _ => Pure.pure ()) s)
  exact h.bind (fun a t hQ => ⟨a, hQ⟩) (fun _ _ hE => hE)

/-- A computation that returned has the end of one. -/
theorem of_ok {r : EStateM.Result ε σ α} (h : Ends Q E r) {a : α} {s : σ} (hr : r = .ok a s) :
    Q a s := by
  rw [hr] at h
  exact h

/-- The same of one that raised. -/
theorem of_error {r : EStateM.Result ε σ α} (h : Ends Q E r) {e : ε} {s : σ}
    (hr : r = .error e s) : E e s := by
  rw [hr] at h
  exact h

end Ends

/-! ## Computations with one outcome -/

/-- From every state of `I` the computation returns `a`, in a state of `I`. -/
def Yields (I : σ → Prop) (m : EStateM ε σ α) (a : α) : Prop :=
  ∀ s, I s → ∃ s', m s = .ok a s' ∧ I s'

namespace Yields

variable {I : σ → Prop}

/-- Returning a value yields it. -/
theorem pure (a : α) : Yields I (Pure.pure a : EStateM ε σ α) a := by
  intro s hs
  exact ⟨s, rfl, hs⟩

/-- A sequence of parts that yield yields the last value. -/
theorem bind {m : EStateM ε σ α} {f : α → EStateM ε σ β} {a : α} {b : β} (hm : Yields I m a)
    (hf : Yields I (f a) b) : Yields I (m >>= f) b := by
  intro s hs
  obtain ⟨t, hmt, ht⟩ := hm s hs
  rw [bind_of_ok hmt]
  exact hf t ht

end Yields

/-! ## Steps within a preorder -/

/-- The state a computation leaves behind, whichever way it ends. -/
def finalState : EStateM.Result ε σ α → σ
  | .ok _ s => s
  | .error _ s => s

/-- Returning in the end leaves the state. -/
theorem finalState_bind_pure (m : EStateM ε σ α) (f : α → β) (s : σ) :
    finalState ((m >>= fun a => pure (f a)) s) = finalState (m s) := by
  rw [bind_apply]
  cases m s <;> rfl

/-- Whichever way `m` ends, its final state is related to its initial state. -/
def Within (R : σ → σ → Prop) (m : EStateM ε σ α) : Prop :=
  ∀ s, R s (finalState (m s))

namespace Within

variable {R : σ → σ → Prop}

/-- Returning keeps every reflexive relation. -/
theorem pure [Std.Refl R] (a : α) : Within R (Pure.pure a : EStateM ε σ α) :=
  fun s => Std.Refl.refl s

/-- The same of raising. -/
theorem throw [Std.Refl R] (e : ε) : Within R (MonadExcept.throw e : EStateM ε σ α) :=
  fun s => Std.Refl.refl s

/-- The same of reading. -/
theorem get [Std.Refl R] : Within R (MonadState.get : EStateM ε σ σ) :=
  fun s => Std.Refl.refl s

/-- The same of an outcome that is passed on. -/
theorem lift [Std.Refl R] (x : Except ε α) : Within R (Library.lift x : EStateM ε σ α) :=
  fun s => by cases x <;> exact Std.Refl.refl s

/-- A sequence keeps a transitive relation both parts keep. -/
theorem bind [IsTrans σ R] {m : EStateM ε σ α} {f : α → EStateM ε σ β} (hm : Within R m)
    (hf : ∀ a, Within R (f a)) : Within R (m >>= f) := by
  intro s
  have h := hm s
  rw [bind_apply]
  cases hms : m s with
  | ok a t =>
    rw [hms] at h
    exact IsTrans.trans _ _ _ h (hf a t)
  | error e t =>
    rw [hms] at h
    exact h

/-- The continuation of a pure computation may use what it computes. -/
theorem bind_lift [Std.Refl R] {x : Except ε α} {f : α → EStateM ε σ β}
    (hf : ∀ a, x = .ok a → Within R (f a)) : Within R (Library.lift x >>= f) := by
  cases x with
  | error e => exact fun s => Std.Refl.refl s
  | ok a => exact hf a rfl

/-- What is kept holds at every end. -/
theorem ends {m : EStateM ε σ α} (h : Within R m) (s : σ) :
    Ends (fun _ t => R s t) (fun _ t => R s t) (m s) := by
  have hs := h s
  cases hms : m s with
  | ok a t =>
    rw [hms] at hs
    exact hs
  | error e t =>
    rw [hms] at hs
    exact hs

/-- What is kept is kept by a computation that returned. -/
theorem of_ok {m : EStateM ε σ α} (h : Within R m) {s s' : σ} {a : α} (hm : m s = .ok a s') :
    R s s' := by
  simpa [hm, finalState] using h s

/-- The same of one that raised. -/
theorem of_error {m : EStateM ε σ α} (h : Within R m) {s s' : σ} {e : ε}
    (hm : m s = .error e s') : R s s' := by
  simpa [hm, finalState] using h s

end Within

/-! ## Two computations side by side -/

/-- Two ends of computations agree: same value or same exception, related states. -/
inductive AgreeEnds (R : σ → σ → Prop) :
    EStateM.Result ε σ α → EStateM.Result ε σ α → Prop where
  | ok {a : α} {s t : σ} (h : R s t) : AgreeEnds R (.ok a s) (.ok a t)
  | error {e : ε} {s t : σ} (h : R s t) : AgreeEnds R (.error e s) (.error e t)

/-- From related states the two computations end alike. -/
def Agree (R : σ → σ → Prop) (m₁ m₂ : EStateM ε σ α) : Prop :=
  ∀ s t, R s t → AgreeEnds R (m₁ s) (m₂ t)

namespace Agree

variable {R : σ → σ → Prop}

/-- Returning agrees with itself. -/
theorem pure (a : α) : Agree R (Pure.pure a : EStateM ε σ α) (Pure.pure a) :=
  fun _ _ h => .ok h

/-- The same of raising. -/
theorem throw (e : ε) : Agree R (MonadExcept.throw e : EStateM ε σ α) (MonadExcept.throw e) :=
  fun _ _ h => .error h

/-- The same of an outcome that is passed on. -/
theorem lift (x : Except ε α) : Agree R (Library.lift x : EStateM ε σ α) (Library.lift x) :=
  fun _ _ h => by
    cases x with
    | ok a => exact .ok h
    | error e => exact .error h

/-- Modifications that keep states related agree. -/
theorem update {f : σ → σ} (h : ∀ s t, R s t → R (f s) (f t)) :
    Agree R (modify f : EStateM ε σ PUnit) (modify f) :=
  fun s t hst => .ok (h s t hst)

/-- Sequences agree if their parts do. -/
theorem bind {m₁ m₂ : EStateM ε σ α} {f₁ f₂ : α → EStateM ε σ β} (hm : Agree R m₁ m₂)
    (hf : ∀ a, Agree R (f₁ a) (f₂ a)) : Agree R (m₁ >>= f₁) (m₂ >>= f₂) := by
  intro s t hst
  have h := hm s t hst
  rw [bind_apply, bind_apply]
  generalize m₁ s = r₁, m₂ t = r₂ at h
  cases h with
  | ok h => exact hf _ _ _ h
  | error h => exact .error h

end Agree

end Walkoff.Library
