import Walkoff.Program.Tokens

/-!
# A revoked token stays revoked

The table forgets a token when it is pruned at an instant whose local time is past the
local time of the token's expiry. When the local clock is set back in between, that instant
can be before the expiry.
-/

set_option autoImplicit false

namespace Walkoff.Analysis

open Walkoff.Program
open Walkoff.Library (Always Guarded Run)

variable {localTime : ℤ → ℤ} {pruneFrequency : ℕ}

/-- Every revoked token is found in the table until it has expired. -/
def StaysRevoked (s : TokenState) : Prop :=
  ∀ token ∈ s.revoked, s.now ≤ token.exp → isTokenRevoked token s.store = true

/-- The row of a revoked token has the local time of its expiry, and the rows are those of
revoked tokens. -/
structure FiledLocally (localTime : ℤ → ℤ) (s : TokenState) : Prop where
  rows : ∀ row ∈ s.store.rows, ∃ token ∈ s.revoked,
    row.jti = token.jti ∧ row.expires = localTime token.exp
  unique : ∀ token ∈ s.revoked, ∀ other ∈ s.revoked, other.jti = token.jti → other = token

/-- If this step prunes the table, the local time is not past the local expiry of a token that
has not expired. -/
def PrunesInOrder (localTime : ℤ → ℤ) (pruneFrequency : ℕ) (s : TokenState) : TokenOp → Prop
  | .revoke token => s.store.numberOfOperations + 1 ≥ pruneFrequency →
      ∀ revoked ∈ token :: s.revoked, s.now ≤ revoked.exp →
        localTime s.now ≤ localTime revoked.exp
  | .tick _ => True

/-- A token is revoked exactly if the table has its `jti`. -/
theorem isTokenRevoked_iff (token : DecodedToken) (store : TokenStore) :
    isTokenRevoked token store = true ↔ ∃ row ∈ store.rows, row.jti = token.jti := by
  simp [isTokenRevoked, List.find?_isSome]

/-- The rows after a revocation: the new one is filed, and a pruning takes out the rows whose
local time is past. -/
theorem mem_revokeToken {now : ℤ} {token : DecodedToken} {store : TokenStore}
    {row : BlacklistedToken} :
    row ∈ (revokeToken localTime pruneFrequency now token store).rows ↔
      (row ∈ store.rows ∨ row = ⟨token.jti, token.userIdentity, localTime token.exp⟩) ∧
        (store.numberOfOperations + 1 ≥ pruneFrequency → localTime now ≤ row.expires) := by
  unfold revokeToken pruneIfNecessary pruneDatabase
  by_cases hprune : store.numberOfOperations + 1 ≥ pruneFrequency
  · simp only [hprune, if_true, List.mem_filter, List.mem_append, List.mem_singleton, Int.not_lt,
      decide_eq_true_eq, forall_const]
  · simp [hprune]

/-- At the start nothing is filed. -/
theorem filedLocally_start (now : ℤ) : FiledLocally localTime (TokenState.start now) := by
  refine ⟨?_, ?_⟩
  · intro row hrow
    cases hrow
  · intro token htoken
    cases htoken

/-- At the start nothing is revoked. -/
theorem staysRevoked_start (now : ℤ) : StaysRevoked (TokenState.start now) := by
  intro token htoken
  cases htoken

/-- **Every step files locally.** -/
theorem filedLocally_step {s s' : TokenState} {op : TokenOp} (h : FiledLocally localTime s)
    (hstep : TokenStep localTime pruneFrequency s op s') : FiledLocally localTime s' := by
  cases hstep with
  | tick elapsed => exact ⟨h.rows, h.unique⟩
  | revoke token hunique =>
    refine ⟨?_, ?_⟩
    · intro row hrow
      obtain ⟨hfiled, -⟩ := mem_revokeToken.mp hrow
      rcases hfiled with hold | rfl
      · obtain ⟨other, hother, hrow⟩ := h.rows row hold
        exact ⟨other, List.mem_cons_of_mem _ hother, hrow⟩
      · exact ⟨token, List.mem_cons_self, rfl, rfl⟩
    · intro one hone other hother hjti
      rcases List.mem_cons.mp hone with heq | hold
      · subst heq
        rcases List.mem_cons.mp hother with heq | hold
        · exact heq
        · exact hunique other hold hjti
      · rcases List.mem_cons.mp hother with heq | hold'
        · subst heq
          exact (hunique one hold hjti.symm).symm
        · exact h.unique one hold other hold' hjti

/-- **A step keeps the revoked tokens exactly if** it does not prune out of order. -/
theorem staysRevoked_step_iff {s s' : TokenState} {op : TokenOp} (hfiled : FiledLocally localTime s)
    (h : StaysRevoked s) (hstep : TokenStep localTime pruneFrequency s op s') :
    StaysRevoked s' ↔ PrunesInOrder localTime pruneFrequency s op := by
  cases hstep with
  | tick elapsed =>
    refine ⟨fun _ => trivial, fun _ token htoken hexp => h token htoken ?_⟩
    dsimp only at hexp
    omega
  | revoke token hunique =>
    have hfiled' := @filedLocally_step localTime pruneFrequency _ _ _ hfiled
      (.revoke token hunique)
    constructor
    · intro hafter hprune revoked hrevoked hexp
      obtain ⟨row, hrow, hjti⟩ := (isTokenRevoked_iff _ _).mp (hafter revoked hrevoked hexp)
      obtain ⟨other, hother, hsame, hexpires⟩ := hfiled'.rows row hrow
      have heq : other = revoked := hfiled'.unique revoked hrevoked other hother (hsame ▸ hjti)
      have hkept := (mem_revokeToken.mp hrow).2 hprune
      rw [hexpires, heq] at hkept
      exact hkept
    · intro hok revoked hrevoked hexp
      rw [isTokenRevoked_iff]
      rcases List.mem_cons.mp hrevoked with rfl | hold
      · refine ⟨⟨revoked.jti, revoked.userIdentity, localTime revoked.exp⟩, ?_, rfl⟩
        exact mem_revokeToken.mpr ⟨.inr rfl, fun hprune => hok hprune revoked hrevoked hexp⟩
      · obtain ⟨row, hrow, hjti⟩ := (isTokenRevoked_iff _ _).mp (h revoked hold hexp)
        obtain ⟨other, hother, hsame, hexpires⟩ := hfiled.rows row hrow
        have heq : other = revoked := hfiled.unique revoked hold other hother (hsame ▸ hjti)
        refine ⟨row, mem_revokeToken.mpr ⟨.inl hrow, fun hprune => ?_⟩, hjti⟩
        rw [hexpires, heq]
        exact hok hprune revoked hrevoked hexp

/-- **Revoked tokens stay revoked exactly if** the table is never pruned out of order. -/
theorem staysRevoked_iff (localTime : ℤ → ℤ) (pruneFrequency : ℕ) (now : ℤ) (ops : List TokenOp)
    (s : TokenState) :
    Always (TokenStep localTime pruneFrequency) StaysRevoked (TokenState.start now) ops s ↔
      Run (Guarded (TokenStep localTime pruneFrequency) (PrunesInOrder localTime pruneFrequency))
        (TokenState.start now) ops s :=
  @Run.always_iff _ _ (TokenStep localTime pruneFrequency) StaysRevoked (FiledLocally localTime)
    (PrunesInOrder localTime pruneFrequency)
    (fun _ _ _ hfiled _ hstep => filedLocally_step hfiled hstep)
    (fun _ _ _ hfiled h hstep => staysRevoked_step_iff hfiled h hstep) _ _ _
    (filedLocally_start now) (staysRevoked_start now)

/-- A local clock that is set back by an hour at the instant 10 000. -/
def setBack (instant : ℤ) : ℤ :=
  if instant < 10000 then instant + 3600 else instant

/-- Shortly before the clock is set back, a token that expires shortly afterwards is revoked and
the table pruned: the token is forgotten. -/
theorem clock_set_back_forgets_token :
    ∃ s, Run (TokenStep setBack 1) (TokenState.start 9000)
        [.tick 500, .revoke { jti := "a", userIdentity := "user", exp := 11000 }] s ∧
      ¬ StaysRevoked s := by
  refine ⟨_, .cons (.tick 500) (.cons (.revoke _ (by simp [TokenState.start])) (.refl _)), ?_⟩
  intro h
  have hfound := h ⟨"a", "user", 11000⟩ List.mem_cons_self (by decide)
  revert hfound
  decide

end Walkoff.Analysis
