import Mathlib.Data.Int.Notation
import Walkoff.Library.Transition

/-!
# Revoked tokens

`walkoff.serverdb.tokens`. A revoked token is filed with its expiry as a naive local time,
and the table is pruned by comparing that time with the naive local time of the pruning.
-/

set_option autoImplicit false

namespace Walkoff.Program

/-- The fields of a decoded token that are read here; `exp` is an instant. -/
structure DecodedToken where
  jti : String
  userIdentity : String
  exp : ℤ
  deriving DecidableEq, Repr

/-- A row of the table `blacklisted_token`; `expires` is a naive local time. -/
structure BlacklistedToken where
  jti : String
  userIdentity : String
  expires : ℤ
  deriving DecidableEq, Repr

/-- The table, and the key `number_of_operations` of the cache. -/
structure TokenStore where
  rows : List BlacklistedToken
  numberOfOperations : ℕ
  deriving Repr

section

variable (localTime : ℤ → ℤ) (pruneFrequency : ℕ)

/-- `prune_database` at the instant `now`. -/
def pruneDatabase (now : ℤ) (store : TokenStore) : TokenStore :=
  { rows := store.rows.filter fun row => ¬ row.expires < localTime now
    numberOfOperations := 0 }

/-- `prune_if_necessary`. -/
def pruneIfNecessary (now : ℤ) (store : TokenStore) : TokenStore :=
  let store := { store with numberOfOperations := store.numberOfOperations + 1 }
  if store.numberOfOperations ≥ pruneFrequency then pruneDatabase localTime now store else store

/-- `revoke_token`. -/
def revokeToken (now : ℤ) (decodedToken : DecodedToken) (store : TokenStore) : TokenStore :=
  pruneIfNecessary localTime pruneFrequency now { store with
    rows := store.rows ++ [{
      jti := decodedToken.jti
      userIdentity := decodedToken.userIdentity
      expires := localTime decodedToken.exp }] }

end

/-- `is_token_revoked`. -/
def isTokenRevoked (decodedToken : DecodedToken) (store : TokenStore) : Bool :=
  (store.rows.find? (·.jti = decodedToken.jti)).isSome

/-! ## Revocations over time -/

/-- The clock, the store and the tokens that have been revoked. -/
structure TokenState where
  now : ℤ
  store : TokenStore
  revoked : List DecodedToken

/-- Before anything is revoked. -/
def TokenState.start (now : ℤ) : TokenState :=
  { now, store := { rows := [], numberOfOperations := 0 }, revoked := [] }

/-- A token is revoked, or time passes. -/
inductive TokenOp where
  | revoke (token : DecodedToken)
  | tick (elapsed : ℕ)

/-- Tokens are signed and their `jti` is unique, so two tokens with one `jti` are one token. -/
inductive TokenStep (localTime : ℤ → ℤ) (pruneFrequency : ℕ) :
    TokenState → TokenOp → TokenState → Prop where
  | revoke {s : TokenState} (token : DecodedToken)
    (hunique : ∀ other ∈ s.revoked, other.jti = token.jti → other = token) :
    TokenStep localTime pruneFrequency s (.revoke token)
      { s with
        store := revokeToken localTime pruneFrequency s.now token s.store
        revoked := token :: s.revoked }
  | tick {s : TokenState} (elapsed : ℕ) :
    TokenStep localTime pruneFrequency s (.tick elapsed) { s with now := s.now + elapsed }

end Walkoff.Program
