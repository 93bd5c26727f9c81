import Walkoff.Library.Effect

/-!
# Loops whose turns may raise

`loop turn n a` takes turns from the variables `a` until a turn returns or raises, for `n`
turns at most. Its rules speak about the state in which the last turn begins:
`EndsAt turn n a s b t` says that the loop ends in the turn it takes at `b` in the state
`t`, and the loop ends the way that turn ends.
-/

set_option autoImplicit false

namespace Walkoff.Library

variable {ε σ α : Type}

/-- What one turn says: go on with new variables, or return. -/
inductive Turn (α : Type) where
  | again (vars : α)
  | returned

/-- How far a loop got: still going after its turns, or returned. -/
inductive Progress (α : Type) where
  | running (vars : α)
  | returned

/-- A loop, for a number of turns. -/
def loop (turn : α → EStateM ε σ (Turn α)) : ℕ → α → EStateM ε σ (Progress α)
  | 0, a => pure (.running a)
  | n + 1, a => do
    match ← turn a with
    | .again b => loop turn n b
    | .returned => pure .returned

/-- A loop has returned or raised: it is not in the middle of its turns. -/
def Ended : EStateM.Result ε σ (Progress α) → Prop
  | .ok (.running _) _ => False
  | _ => True

instance (r : EStateM.Result ε σ (Progress α)) : Decidable (Ended r) :=
  match r with
  | .ok (.running _) _ => isFalse id
  | .ok .returned _ => isTrue trivial
  | .error _ _ => isTrue trivial

/-- The end of a loop whose last turn ends this way. -/
def Turn.progress : EStateM.Result ε σ (Turn α) → EStateM.Result ε σ (Progress α)
  | .ok (.again a) s => .ok (.running a) s
  | .ok .returned s => .ok .returned s
  | .error e s => .error e s

variable {turn : α → EStateM ε σ (Turn α)}

/-- After a turn that asks for another the loop goes on. -/
theorem loop_succ_of_again {n : ℕ} {a b : α} {s t : σ} (h : turn a s = .ok (.again b) t) :
    loop turn (n + 1) a s = loop turn n b t := by
  rw [loop, bind_apply, h]

/-- A turn that does not go on is the last one. -/
theorem loop_succ_of_last {n : ℕ} {a : α} {s : σ} (h : ∀ b t, turn a s ≠ .ok (.again b) t) :
    loop turn (n + 1) a s = Turn.progress (turn a s) := by
  rw [loop, bind_apply]
  cases hturn : turn a s with
  | error e t => rfl
  | ok r t =>
    cases r with
    | again b => exact absurd hturn (h b t)
    | returned => rfl

/-- A number of turns lead from the variables `a` in the state `s` to `b` in `t`. -/
inductive Reaches (turn : α → EStateM ε σ (Turn α)) : ℕ → α → σ → α → σ → Prop where
  | refl (a : α) (s : σ) : Reaches turn 0 a s a s
  | again {n : ℕ} {a b c : α} {s t u : σ} (hturn : turn a s = .ok (.again b) t)
    (hrest : Reaches turn n b t c u) : Reaches turn (n + 1) a s c u

namespace Reaches

/-- **The invariant rule of loops.** -/
theorem invariant {I : α → σ → Prop}
    (h : ∀ a s b t, I a s → turn a s = .ok (.again b) t → I b t) {n : ℕ} {a b : α} {s t : σ}
    (hreach : Reaches turn n a s b t) (ha : I a s) : I b t := by
  induction hreach with
  | refl a s => exact ha
  | again hturn _ ih => exact ih (h _ _ _ _ ha hturn)

/-- A turn more is reached after those before it. -/
theorem snoc {n : ℕ} {a b c : α} {s t u : σ} (h : Reaches turn n a s b t)
    (hturn : turn b t = .ok (.again c) u) : Reaches turn (n + 1) a s c u := by
  induction h with
  | refl a s => exact .again hturn (.refl _ _)
  | again hfirst _ ih => exact .again hfirst (ih hturn)

/-- The turns after the ones that have been taken. -/
theorem loop_eq {k : ℕ} {a b : α} {s t : σ} (h : Reaches turn k a s b t) (n : ℕ) :
    loop turn (k + n) a s = loop turn n b t := by
  induction h with
  | refl a s => rw [Nat.zero_add]
  | again hturn _ ih => rw [Nat.add_right_comm, loop_succ_of_again hturn, ih]

end Reaches

/-- Within `n` turns from `a` in `s` the loop ends, in the turn it takes at `b` in `t`. -/
structure EndsAt (turn : α → EStateM ε σ (Turn α)) (n : ℕ) (a : α) (s : σ) (b : α) (t : σ) :
    Prop where
  reaches : ∃ k < n, Reaches turn k a s b t
  last : ∀ c u, turn b t ≠ .ok (.again c) u

/-- **The loop ends the way its last turn ends.** -/
theorem EndsAt.loop_eq {n : ℕ} {a b : α} {s t : σ} (h : EndsAt turn n a s b t) :
    loop turn n a s = Turn.progress (turn b t) := by
  obtain ⟨k, hk, hreach⟩ := h.reaches
  obtain ⟨m, rfl⟩ := Nat.exists_eq_add_of_lt hk
  rw [Nat.add_assoc, hreach.loop_eq, loop_succ_of_last h.last]

/-- A loop leaves what its last turn leaves. -/
theorem EndsAt.finalState_loop {n : ℕ} {a b : α} {s t : σ} (h : EndsAt turn n a s b t) :
    finalState (loop turn n a s) = finalState (turn b t) := by
  rw [h.loop_eq]
  cases turn b t with
  | error e u => rfl
  | ok r u => cases r <;> rfl

/-- A loop that ends after a turn more ends there. -/
theorem EndsAt.again {n : ℕ} {a b c : α} {s t u : σ} (hturn : turn a s = .ok (.again b) t)
    (h : EndsAt turn n b t c u) : EndsAt turn (n + 1) a s c u := by
  obtain ⟨k, hk, hreach⟩ := h.reaches
  exact ⟨⟨k + 1, Nat.succ_lt_succ hk, .again hturn hreach⟩, h.last⟩

/-- A loop that has ended has a last turn. -/
theorem exists_endsAt {n : ℕ} {a : α} {s : σ} (h : Ended (loop turn n a s)) :
    ∃ b t, EndsAt turn n a s b t := by
  induction n generalizing a s with
  | zero => exact h.elim
  | succ n ih =>
    by_cases hlast : ∃ b t, turn a s = .ok (.again b) t
    · obtain ⟨b, t, hturn⟩ := hlast
      rw [loop_succ_of_again hturn] at h
      obtain ⟨c, u, hends⟩ := ih h
      exact ⟨c, u, hends.again hturn⟩
    · push Not at hlast
      exact ⟨a, s, ⟨0, Nat.succ_pos n, .refl a s⟩, hlast⟩

/-- **The relation rule of loops**: what relates the state before each turn to the state after
it relates the ends of the loop. -/
theorem EndsAt.within {R : σ → σ → Prop} [Std.Refl R] [IsTrans σ R] {n : ℕ} {a b : α} {s t : σ}
    (h : EndsAt turn n a s b t)
    (hturns : ∀ k c u, k < n → Reaches turn k a s c u → R u (finalState (turn c u))) :
    R s (finalState (loop turn n a s)) := by
  obtain ⟨k, hk, hreach⟩ := h.reaches
  have hrest := hturns k b t hk hreach
  rw [h.finalState_loop]
  clear h
  induction hreach generalizing n with
  | refl a s => exact hrest
  | @again m a b c s t u hturn hreach ih =>
    have hfirst := hturns 0 a s (by omega) (.refl a s)
    rw [hturn] at hfirst
    have hlater : R t (finalState (turn c u)) := by
      refine ih (n := n - 1) (fun j d v hj hreach' => ?_) (by omega) hrest
      exact hturns (j + 1) d v (by omega) (.again hturn hreach')
    exact IsTrans.trans _ _ _ hfirst hlater

/-- A loop has one last turn. -/
theorem EndsAt.unique {n : ℕ} {a b b' : α} {s t t' : σ} (h : EndsAt turn n a s b t)
    (h' : EndsAt turn n a s b' t') : b = b' ∧ t = t' := by
  obtain ⟨k, -, hreach⟩ := h.reaches
  obtain ⟨k', -, hreach'⟩ := h'.reaches
  have hlast := h.last
  have hlast' := h'.last
  clear h h'
  induction hreach generalizing k' with
  | refl a s =>
    cases hreach' with
    | refl => exact ⟨rfl, rfl⟩
    | again hturn _ => exact absurd hturn (hlast _ _)
  | again hturn _ ih =>
    cases hreach' with
    | refl => exact absurd hturn (hlast' _ _)
    | again hturn' hrest' =>
      rw [hturn] at hturn'
      cases hturn'
      exact ih _ hrest' hlast

end Walkoff.Library
