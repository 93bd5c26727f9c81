import Walkoff.Library.Effect

/-!
# Computations that work on a part of the state

Code may carry a large state of which it reads and changes a part only. `Tracks I view m n`
says that `m`, from the states of `I`, does to `view s` what the smaller computation `n` does,
with the same value or exception, and stays in `I`. What is asked of `m` can then be asked of
`n`: whether it raises, and what it returns.
-/

set_option autoImplicit false

namespace Walkoff.Library

variable {ε σ τ α β : Type}

/-- Two ends agree: same value or same exception, and the part of the last state. -/
inductive EndsAs (I : σ → Prop) (view : σ → τ) :
    EStateM.Result ε σ α → EStateM.Result ε τ α → Prop where
  | ok {a : α} {s : σ} (h : I s) : EndsAs I view (.ok a s) (.ok a (view s))
  | error {e : ε} {s : σ} (h : I s) : EndsAs I view (.error e s) (.error e (view s))

/-- From the states of `I`, `m` does to the part what `n` does. -/
def Tracks (I : σ → Prop) (view : σ → τ) (m : EStateM ε σ α) (n : EStateM ε τ α) : Prop :=
  ∀ s, I s → EndsAs I view (m s) (n (view s))

namespace Tracks

variable {I : σ → Prop} {view : σ → τ}

/-- Returning follows returning. -/
theorem pure (a : α) : Tracks I view (Pure.pure a : EStateM ε σ α) (Pure.pure a) :=
  fun _ h => .ok h

/-- The rule of sequencing. -/
theorem bind {m : EStateM ε σ α} {n : EStateM ε τ α} {f : α → EStateM ε σ β}
    {g : α → EStateM ε τ β} (hm : Tracks I view m n) (hf : ∀ a, Tracks I view (f a) (g a)) :
    Tracks I view (m >>= f) (n >>= g) := by
  intro s hs
  have h := hm s hs
  rw [bind_apply, bind_apply]
  generalize m s = r, n (view s) = r' at h
  cases h with
  | ok h => exact hf _ _ h
  | error h => exact .error h

/-- A step that leaves the part alone is skipped. -/
theorem bind_pure {m : EStateM ε σ α} {a : α} {f : α → EStateM ε σ β} {n : EStateM ε τ β}
    (hm : Tracks I view m (Pure.pure a)) (hf : Tracks I view (f a) n) :
    Tracks I view (m >>= f) n := by
  intro s hs
  have h := hm s hs
  rw [pure_apply] at h
  rw [bind_apply]
  generalize hr : m s = r at h
  generalize ht : view s = t at h
  cases h with
  | @ok _ s' h => exact hf s' h

/-- What is returned. -/
theorem of_ok {m : EStateM ε σ α} {n : EStateM ε τ α} (h : Tracks I view m n) {s s' : σ} {a : α}
    (hs : I s) (hm : m s = .ok a s') : n (view s) = .ok a (view s') ∧ I s' := by
  have hends := h s hs
  rw [hm] at hends
  generalize hr : n (view s) = r at hends
  cases hends with
  | ok h => exact ⟨rfl, h⟩

/-- **`m` raises exactly if `n` does.** -/
theorem raises_iff {m : EStateM ε σ α} {n : EStateM ε τ α} (h : Tracks I view m n) {s : σ}
    (hs : I s) : (∃ e s', m s = .error e s') ↔ ∃ e t, n (view s) = .error e t := by
  have hends := h s hs
  generalize m s = r, n (view s) = r' at hends
  cases hends with
  | ok h => exact ⟨fun ⟨_, _, h⟩ => (by cases h), fun ⟨_, _, h⟩ => (by cases h)⟩
  | error h => exact ⟨fun _ => ⟨_, _, rfl⟩, fun _ => ⟨_, _, rfl⟩⟩

end Tracks

end Walkoff.Library
