import Walkoff.Analysis.TokenRevocation
import Walkoff.Program.Sessions

/-!
# Open sessions

A login grants a refresh token, a logout revokes one and counts a login less. The count of a user is
never more than the number of refresh tokens that have been issued to the user and not been revoked,
and it is that number as long as no token is revoked twice and no id is given away twice. As long as
the local clock is not set back, a token that has been revoked is not accepted again.
-/

set_option autoImplicit false

namespace Walkoff.Analysis

open Walkoff.Program
open Walkoff.Library
open Walkoff.Library.OrderedDict (nextId)

/-! ## The open tokens -/

/-- A refresh token of a user that has not been revoked. -/
def IsOpen (userId : ℤ) (s : SessionState) (token : Jwt) : Prop :=
  token.refresh = true ∧ token.identity = userId ∧ token.decoded ∉ s.tokens.revoked

instance (userId : ℤ) (s : SessionState) (token : Jwt) : Decidable (IsOpen userId s token) :=
  inferInstanceAs (Decidable (_ ∧ _ ∧ _))

/-- The number of open sessions of a user. -/
def openSessions (userId : ℤ) (s : SessionState) : ℕ :=
  s.issued.countP fun token => IsOpen userId s token

/-- Tokens are told apart by their `jti`, and only issued tokens have been revoked. -/
structure Bookkept (localTime : ℤ → ℤ) (lib : JwtLibrary) (s : SessionState) : Prop where
  jtis : s.issued.map Jwt.jti = (List.range s.issued.length).map lib.uuid4
  revoked : ∀ decoded ∈ s.tokens.revoked, ∃ token ∈ s.issued, token.decoded = decoded
  filed : FiledLocally localTime s.tokens

section

variable {localTime : ℤ → ℤ} {pruneFrequency : ℕ} {lib : JwtLibrary} {server : Server}
  {s : SessionState}

/-- An element that a list has once, taken out of a count. -/
theorem countP_and_ne {α : Type} [DecidableEq α] {p : α → Prop} [DecidablePred p] {a : α}
    {l : List α} (hnodup : l.Nodup) (hmem : a ∈ l) :
    (l.countP fun x => p x ∧ x ≠ a) = (l.countP fun x => p x) - if p a then 1 else 0 := by
  have herase : (l.countP fun x => p x ∧ x ≠ a) = (l.erase a).countP fun x => p x := by
    rw [hnodup.erase_eq_filter, List.countP_filter]
    refine List.countP_congr fun x _ => ?_
    simp
  have hcons : (l.countP fun x => p x) =
      ((l.erase a).countP fun x => p x) + if p a then 1 else 0 := by
    rw [(List.perm_cons_erase hmem).countP_eq, List.countP_cons]
    simp
  rw [herase, hcons, Nat.add_sub_cancel]

/-- No two issued tokens have one `jti`. -/
theorem Bookkept.nodup (h : Bookkept localTime lib s) (hlib : lib.Signs) :
    (s.issued.map Jwt.jti).Nodup := by
  rw [h.jtis]
  exact List.nodup_range.map hlib.uuid4

/-- Two issued tokens that read alike are one token. -/
theorem Bookkept.eq_of_jti (h : Bookkept localTime lib s) (hlib : lib.Signs)
    {token other : Jwt} (htoken : token ∈ s.issued) (hother : other ∈ s.issued)
    (hjti : token.jti = other.jti) : token = other :=
  List.inj_on_of_nodup_map (h.nodup hlib) htoken hother hjti

/-! ## What a step does to the open sessions -/

/-- A revocation closes the session of the token, if it is open. -/
theorem openSessions_revoke (h : Bookkept localTime lib s) (hlib : lib.Signs)
    {token : Jwt} (htoken : token ∈ s.issued) (userId : ℤ) :
    openSessions userId (revoke localTime pruneFrequency token s) =
      openSessions userId s - if IsOpen userId s token then 1 else 0 := by
  rw [openSessions, openSessions, ← countP_and_ne ((h.nodup hlib).of_map _) htoken]
  refine List.countP_congr fun other hother => ?_
  have heq : other.decoded = token.decoded ↔ other = token := by
    constructor
    · intro hdecoded
      exact h.eq_of_jti hlib hother htoken (congrArg DecodedToken.jti hdecoded)
    · rintro rfl
      rfl
  rw [decide_eq_true_iff, decide_eq_true_iff]
  simp only [IsOpen, revoke, List.mem_cons, not_or, heq]
  tauto

/-- A token that has just been issued has not been revoked. -/
theorem decoded_not_mem_revoked (h : Bookkept localTime lib s)
    (hlib : lib.Signs) (refresh fresh : Bool) (identity : ℤ) :
    (createToken lib refresh fresh identity s).1.decoded ∉ s.tokens.revoked := by
  intro hmem
  obtain ⟨token, htoken, hdecoded⟩ := h.revoked _ hmem
  have hjti : token.jti ∈ (List.range s.issued.length).map lib.uuid4 :=
    h.jtis ▸ List.mem_map_of_mem htoken
  obtain ⟨i, hi, heq⟩ := List.mem_map.mp hjti
  have hsame : i = s.issued.length := hlib.uuid4 (heq.trans (congrArg DecodedToken.jti hdecoded))
  exact absurd (List.mem_range.mp hi) (by omega)

/-- A refresh token opens a session of its user. -/
theorem openSessions_createToken (h : Bookkept localTime lib s)
    (hlib : lib.Signs) (refresh fresh : Bool) (identity userId : ℤ) :
    openSessions userId (createToken lib refresh fresh identity s).2 =
      openSessions userId s + if refresh ∧ identity = userId then 1 else 0 := by
  have hnew := decoded_not_mem_revoked h hlib refresh fresh identity
  have hopen : IsOpen userId s (createToken lib refresh fresh identity s).1 ↔
      refresh = true ∧ identity = userId :=
    ⟨fun hopen => ⟨hopen.1, hopen.2.1⟩, fun hopen => ⟨hopen.1, hopen.2, hnew⟩⟩
  have hcount : openSessions userId (createToken lib refresh fresh identity s).2 =
      (s.issued ++ [(createToken lib refresh fresh identity s).1]).countP fun token =>
        IsOpen userId s token := rfl
  rw [hcount, List.countP_append, List.countP_singleton]
  simp only [decide_eq_true_eq, hopen, openSessions]

/-- Changing an account leaves the open sessions. -/
@[simp] theorem openSessions_changeAccount (userId id : ℤ) (f : Account → Account)
    (s : SessionState) : openSessions userId (changeAccount id f s) = openSessions userId s := by
  unfold changeAccount
  split <;> rfl

/-- Changing an account changes that account alone. -/
theorem users_changeAccount (id : ℤ) (f : Account → Account) (s : SessionState) (userId : ℤ) :
    (changeAccount id f s).users.get? userId =
      if userId = id then (s.users.get? userId).map f else s.users.get? userId := by
  unfold changeAccount
  cases huser : s.users.get? id with
  | none =>
    by_cases hid : userId = id
    · subst hid
      simp [huser]
    · simp [hid]
  | some user =>
    dsimp only
    rw [OrderedDict.get?_set]
    by_cases hid : userId = id
    · subst hid
      simp [huser]
    · simp [hid]

/-! ## The steps -/

variable (server localTime pruneFrequency lib) in
/-- What an operation makes of a state. -/
inductive SessionChange (s : SessionState) : SessionOp → SessionState → Prop where
  | nothing (op : SessionOp) : SessionChange s op s
  | grant (op : SessionOp) (fresh : Bool) (userId : ℤ) :
    SessionChange s op (createToken lib false fresh userId s).2
  | login (op : SessionOp) (userId : ℤ) (ipAddress : String) :
    SessionChange s op (createToken lib true false userId
      (changeAccount userId (Account.login s.tokens.now ipAddress)
        (createToken lib false true userId s).2)).2
  | revokeGone (op : SessionOp) (token : Jwt) (htoken : token ∈ s.issued)
    (hgone : s.users.get? token.identity = none) :
    SessionChange s op (revoke localTime pruneFrequency token s)
  | logout (access token : Jwt) (htoken : token ∈ s.issued) :
    SessionChange s (.logout access (some token)) (revoke localTime pruneFrequency token
      (changeAccount token.identity Account.logout s))
  | addUser (username password : String) :
    SessionChange s (.addUser username password)
      { s with users := s.users.set (nextId s.users) (Account.new username password) }
  | deleteUser (userId : ℤ) :
    SessionChange s (.deleteUser userId) { s with users := s.users.pop userId }
  | editUser (userId : ℤ) (username password : String) (active : Bool) :
    SessionChange s (.editUser userId username password active)
      (changeAccount userId (fun user => { user with username, password, active }) s)
  | durations (op : SessionOp) (accessExpires refreshExpires : ℤ) :
    SessionChange s op { s with accessExpires, refreshExpires }
  | tick (elapsed : ℕ) :
    SessionChange s (.tick elapsed)
      { s with tokens := { s.tokens with now := s.tokens.now + elapsed } }

/-- A token that is decoded has been issued. -/
theorem mem_issued_of_decodable (hlib : lib.Signs) {token : Jwt}
    (h : decodable lib token s = true) : token ∈ s.issued :=
  hlib.signed _ _ _ h

/-- Logging in is a change of its kind. -/
theorem sessionChange_authenticate (op : SessionOp) (withRefresh : Bool) (ipAddress : String)
    (username password : Option String) :
    SessionChange localTime pruneFrequency lib s op
      (authenticateAndGrantTokens server lib withRefresh ipAddress username password s).2 := by
  unfold authenticateAndGrantTokens
  split_ifs
  · exact .nothing op
  · split
    · exact .nothing op
    · rename_i userId user _
      split_ifs
      · exact .nothing op
      · split
        · exact .nothing op
        · exact .nothing op
        · cases withRefresh with
          | true => exact .login op userId ipAddress
          | false => exact .grant op true userId

/-- The same of refreshing. -/
theorem sessionChange_refresh (hlib : lib.Signs) (op : SessionOp) (token : Jwt) :
    SessionChange localTime pruneFrequency lib s op
      (refresh lib localTime pruneFrequency token s).2 := by
  unfold refresh
  split_ifs with hrefused
  · exact .nothing op
  · have hdecodable : decodable lib token s = true := by
      simp only [Bool.or_eq_true, Bool.not_eq_true', not_or] at hrefused
      simpa using hrefused.1.1
    split
    · rename_i hgone
      exact .revokeGone op token (mem_issued_of_decodable hlib hdecodable) hgone
    · split_ifs
      · exact .grant op false token.identity
      · exact .nothing op

/-- The same of logging out. -/
theorem sessionChange_logout (hlib : lib.Signs) (access : Jwt) (refreshToken : Option Jwt) :
    SessionChange localTime pruneFrequency lib s (.logout access refreshToken)
      (logout lib localTime pruneFrequency access refreshToken s).2 := by
  unfold logout
  split_ifs
  · exact .nothing _
  · split
    · exact .nothing _
    · rename_i token
      split_ifs with hrefused
      · exact .nothing _
      · exact .logout access token (mem_issued_of_decodable hlib (by simpa using hrefused))
      · exact .nothing _

/-- **Every operation makes one of these changes.** -/
theorem sessionChange_of_step (hlib : lib.Signs) {op : SessionOp} {s' : SessionState}
    (h : SessionStep server lib localTime pruneFrequency s op s') :
    SessionChange localTime pruneFrequency lib s op s' := by
  obtain rfl := h
  cases op with
  | login username password ipAddress => exact sessionChange_authenticate _ true ipAddress _ _
  | freshLogin username password => exact sessionChange_authenticate _ false "" _ _
  | refresh token => exact sessionChange_refresh hlib _ token
  | logout access refreshToken => exact sessionChange_logout hlib access refreshToken
  | addUser username password => exact .addUser username password
  | deleteUser userId => exact .deleteUser userId
  | editUser userId username password active => exact .editUser userId username password active
  | resetTokenDurations access refresh =>
    unfold serveSession resetTokenDurations
    dsimp only
    split_ifs
    · exact .durations _ _ _
    · exact .nothing _
  | tick elapsed => exact .tick elapsed

/-! ## The books are kept -/

/-- At the start no token has been issued. -/
theorem bookkept_start (users : List (String × String)) (accessExpires refreshExpires now : ℤ) :
    Bookkept localTime lib (SessionState.start users accessExpires refreshExpires now) where
  jtis := rfl
  revoked := List.forall_mem_nil _
  filed := filedLocally_start now

/-- A new token keeps the books. -/
theorem Bookkept.createToken (h : Bookkept localTime lib s) (refresh fresh : Bool)
    (identity : ℤ) : Bookkept localTime lib (createToken lib refresh fresh identity s).2 where
  jtis := by
    unfold Program.createToken
    dsimp only
    rw [List.map_append, h.jtis, List.length_append, List.length_singleton, List.range_succ,
      List.map_append]
    rfl
  revoked := by
    intro decoded hdecoded
    obtain ⟨token, htoken, heq⟩ := h.revoked decoded hdecoded
    exact ⟨token, List.mem_append_left _ htoken, heq⟩
  filed := h.filed

/-- Changing an account keeps the books. -/
theorem Bookkept.changeAccount (h : Bookkept localTime lib s) (userId : ℤ)
    (f : Account → Account) : Bookkept localTime lib (changeAccount userId f s) := by
  unfold Program.changeAccount
  split
  · exact ⟨h.jtis, h.revoked, h.filed⟩
  · exact h

/-- Changing an account issues no token. -/
theorem issued_changeAccount (userId : ℤ) (f : Account → Account) (s : SessionState) :
    (changeAccount userId f s).issued = s.issued := by
  unfold changeAccount
  split <;> rfl

/-- Changing an account revokes no token. -/
theorem tokens_changeAccount (userId : ℤ) (f : Account → Account) (s : SessionState) :
    (changeAccount userId f s).tokens = s.tokens := by
  unfold changeAccount
  split <;> rfl

/-- A revocation is a step of the revoked tokens. -/
theorem Bookkept.tokenStep (h : Bookkept localTime lib s) (hlib : lib.Signs)
    {token : Jwt} (htoken : token ∈ s.issued) :
    TokenStep localTime pruneFrequency s.tokens (.revoke token.decoded)
      (revoke localTime pruneFrequency token s).tokens := by
  refine .revoke token.decoded fun other hother hjti => ?_
  obtain ⟨issued, hissued, rfl⟩ := h.revoked other hother
  rw [h.eq_of_jti hlib hissued htoken hjti]

/-- Revoking an issued token keeps the books. -/
theorem Bookkept.revoke (h : Bookkept localTime lib s) (hlib : lib.Signs)
    {token : Jwt} (htoken : token ∈ s.issued) :
    Bookkept localTime lib (revoke localTime pruneFrequency token s) where
  jtis := h.jtis
  revoked := by
    intro decoded hdecoded
    rcases List.mem_cons.mp hdecoded with rfl | hold
    · exact ⟨token, htoken, rfl⟩
    · exact h.revoked decoded hold
  filed := filedLocally_step h.filed (h.tokenStep hlib htoken)

/-- An operation keeps the books. -/
theorem bookkept_step (hlib : lib.Signs) {op : SessionOp} {s' : SessionState}
    (h : Bookkept localTime lib s)
    (hchange : SessionChange localTime pruneFrequency lib s op s') :
    Bookkept localTime lib s' := by
  cases hchange with
  | nothing => exact h
  | grant _ fresh userId => exact h.createToken false fresh userId
  | login _ userId ipAddress =>
    exact ((h.createToken false true userId).changeAccount userId _).createToken true false userId
  | revokeGone _ token htoken hgone => exact h.revoke hlib htoken
  | logout access token htoken =>
    refine (h.changeAccount token.identity Account.logout).revoke hlib ?_
    rwa [issued_changeAccount]
  | addUser => exact ⟨h.jtis, h.revoked, h.filed⟩
  | deleteUser => exact ⟨h.jtis, h.revoked, h.filed⟩
  | editUser userId username password active => exact h.changeAccount userId _
  | durations => exact ⟨h.jtis, h.revoked, h.filed⟩
  | tick elapsed =>
    exact ⟨h.jtis, h.revoked, filedLocally_step h.filed
      (@TokenStep.tick localTime pruneFrequency s.tokens elapsed)⟩

/-- The local clock keeps the order of times: it is not set back. -/
def NeverSetBack (localTime : ℤ → ℤ) : Prop :=
  ∀ s t, s ≤ t → localTime s ≤ localTime t

/-- A clock that is not set back never prunes out of order. -/
theorem staysRevoked_of_neverSetBack (hclock : NeverSetBack localTime) {t t' : TokenState} {op : TokenOp}
    (hfiled : FiledLocally localTime t) (h : StaysRevoked t)
    (hstep : TokenStep localTime pruneFrequency t op t') : StaysRevoked t' := by
  refine (staysRevoked_step_iff hfiled h hstep).mpr ?_
  cases op with
  | revoke token => exact fun _ revoked _ hexp => hclock _ _ hexp
  | tick elapsed => trivial

/-- An operation keeps the revoked tokens revoked, if the clock is never set back. -/
theorem staysRevoked_step (hlib : lib.Signs) (hclock : NeverSetBack localTime)
    {op : SessionOp} {s' : SessionState} (h : Bookkept localTime lib s)
    (hstays : StaysRevoked s.tokens)
    (hchange : SessionChange localTime pruneFrequency lib s op s') : StaysRevoked s'.tokens := by
  cases hchange with
  | nothing => exact hstays
  | grant _ fresh userId => exact hstays
  | login _ userId ipAddress =>
    show StaysRevoked (changeAccount userId _ _).tokens
    rw [tokens_changeAccount]
    exact hstays
  | revokeGone _ token htoken hgone =>
    exact staysRevoked_of_neverSetBack hclock h.filed hstays (h.tokenStep hlib htoken)
  | logout access token htoken =>
    have hmiddle := h.changeAccount token.identity Account.logout
    have htokens := tokens_changeAccount token.identity Account.logout s
    refine staysRevoked_of_neverSetBack hclock hmiddle.filed ?_ (hmiddle.tokenStep hlib ?_)
    · rwa [htokens]
    · rwa [issued_changeAccount]
  | addUser => exact hstays
  | deleteUser => exact hstays
  | editUser userId username password active => rwa [tokens_changeAccount]
  | durations => exact hstays
  | tick elapsed =>
    exact staysRevoked_of_neverSetBack hclock h.filed hstays
      (@TokenStep.tick localTime pruneFrequency s.tokens elapsed)

/-! ## Counting logins -/

/-- What a step does to the count of a user who is there afterwards, and to the open sessions. -/
inductive CountChange (s : SessionState) (userId : ℤ) (user' : Account) (count' : ℕ) :
    SessionOp → Prop where
  | added (username password : String) (hid : userId = nextId s.users)
    (hcount : user'.loginCount = 0) (hopen : count' = openSessions userId s) :
    CountChange s userId user' count' (.addUser username password)
  | same (op : SessionOp) (user : Account) (huser : s.users.get? userId = some user)
    (hcount : user'.loginCount = user.loginCount) (hopen : count' = openSessions userId s) :
    CountChange s userId user' count' op
  | login (op : SessionOp) (user : Account) (huser : s.users.get? userId = some user)
    (hcount : user'.loginCount = user.loginCount + 1)
    (hopen : count' = openSessions userId s + 1) : CountChange s userId user' count' op
  | logout (access token : Jwt) (user : Account) (huser : s.users.get? userId = some user)
    (hid : token.identity = userId) (hcount : user'.loginCount = user.loginCount - 1)
    (hopen : count' = openSessions userId s - if IsOpen userId s token then 1 else 0) :
    CountChange s userId user' count' (.logout access (some token))

/-- Logging out takes one from the count. -/
theorem loginCount_logout (user : Account) :
    user.logout.loginCount = user.loginCount - 1 := by
  unfold Account.logout
  split_ifs
  · rfl
  · omega

/-- Changing an account leaves the tokens open or closed. -/
theorem isOpen_changeAccount (userId id : ℤ) (f : Account → Account) (s : SessionState)
    (token : Jwt) : IsOpen userId (changeAccount id f s) token ↔ IsOpen userId s token := by
  unfold IsOpen
  rw [tokens_changeAccount]

/-- What an operation does to the count of a user. -/
theorem countChange_of_step (hlib : lib.Signs) {op : SessionOp}
    {s' : SessionState} (h : Bookkept localTime lib s)
    (hchange : SessionChange localTime pruneFrequency lib s op s') {userId : ℤ}
    {user' : Account} (huser' : s'.users.get? userId = some user') :
    CountChange s userId user' (openSessions userId s') op := by
  cases hchange with
  | nothing => exact .same _ user' huser' rfl rfl
  | grant _ fresh id =>
    exact .same _ user' huser' rfl (by simp [openSessions_createToken h hlib])
  | login _ id ipAddress =>
    have hfirst := h.createToken false true id
    have hopen := openSessions_createToken (hfirst.changeAccount id
      (Account.login s.tokens.now ipAddress)) hlib true false id userId
    rw [openSessions_changeAccount, openSessions_createToken h hlib] at hopen
    have hrow := (users_changeAccount id (Account.login s.tokens.now ipAddress)
      (createToken lib false true id s).2 userId).symm.trans huser'
    by_cases hid : userId = id
    · subst hid
      rw [if_pos rfl] at hrow
      obtain ⟨user, huser, rfl⟩ := Option.map_eq_some_iff.mp hrow
      exact .login _ user huser rfl (by simpa using hopen)
    · rw [if_neg hid] at hrow
      exact .same _ user' hrow rfl (by simpa [Ne.symm hid] using hopen)
  | revokeGone _ token htoken hgone =>
    have hclosed : ¬ IsOpen userId s token := by
      rintro ⟨-, hid, -⟩
      rw [hid] at hgone
      cases hgone.symm.trans huser'
    refine .same _ user' huser' rfl ?_
    rw [openSessions_revoke h hlib htoken, if_neg hclosed, Nat.sub_zero]
  | logout access token htoken =>
    have hmiddle := h.changeAccount token.identity Account.logout
    have hissued : token ∈ (changeAccount token.identity Account.logout s).issued := by
      rwa [issued_changeAccount]
    have hopen := @openSessions_revoke localTime pruneFrequency lib _ hmiddle hlib token
      hissued userId
    simp only [openSessions_changeAccount, isOpen_changeAccount] at hopen
    have hrow := (users_changeAccount token.identity Account.logout s userId).symm.trans huser'
    by_cases hid : userId = token.identity
    · rw [if_pos hid] at hrow
      obtain ⟨user, huser, rfl⟩ := Option.map_eq_some_iff.mp hrow
      exact .logout access token user huser hid.symm (loginCount_logout user) hopen
    · rw [if_neg hid] at hrow
      have hclosed : ¬ IsOpen userId s token := fun hopen => hid hopen.2.1.symm
      rw [if_neg hclosed, Nat.sub_zero] at hopen
      exact .same _ user' hrow rfl hopen
  | addUser username password =>
    have hrow := (OrderedDict.get?_set (nextId s.users) userId (Account.new username password)
      s.users).symm.trans huser'
    by_cases hid : userId = nextId s.users
    · rw [if_pos hid] at hrow
      obtain rfl := Option.some.inj hrow
      exact .added username password hid rfl rfl
    · rw [if_neg hid] at hrow
      exact .same _ user' hrow rfl rfl
  | deleteUser id =>
    have hrow := (OrderedDict.get?_pop id userId s.users).symm.trans huser'
    split_ifs at hrow
    exact .same _ user' hrow rfl rfl
  | editUser id username password active =>
    have hrow := (users_changeAccount id _ s userId).symm.trans huser'
    have hopen := openSessions_changeAccount userId id
      (fun user => { user with username, password, active }) s
    by_cases hid : userId = id
    · rw [if_pos hid] at hrow
      obtain ⟨user, huser, rfl⟩ := Option.map_eq_some_iff.mp hrow
      exact .same _ user huser rfl hopen
    · rw [if_neg hid] at hrow
      exact .same _ user' hrow rfl hopen
  | durations => exact .same _ user' huser' rfl rfl
  | tick elapsed => exact .same _ user' huser' rfl rfl

/-- The count of a user is at most the number of open sessions. -/
def CountsBounded (s : SessionState) : Prop :=
  ∀ userId user, s.users.get? userId = some user → user.loginCount ≤ openSessions userId s

/-- The count of a user is the number of open sessions. -/
def CountsExact (s : SessionState) : Prop :=
  ∀ userId user, s.users.get? userId = some user → user.loginCount = openSessions userId s

/-- A logout hands in an open session, and a new user gets an id that no token has. -/
def OncePerToken (s : SessionState) : SessionOp → Prop
  | .logout _ (some token) => IsOpen token.identity s token
  | .addUser _ _ => openSessions (nextId s.users) s = 0
  | _ => True

/-- An operation keeps the counts bounded. -/
theorem countsBounded_step (hlib : lib.Signs) {op : SessionOp}
    {s' : SessionState} (h : Bookkept localTime lib s) (hbounded : CountsBounded s)
    (hchange : SessionChange localTime pruneFrequency lib s op s') : CountsBounded s' := by
  intro userId user' huser'
  cases countChange_of_step hlib h hchange huser' with
  | added username password hid hcount hopen => omega
  | same op user huser hcount hopen =>
    have := hbounded userId user huser
    omega
  | login op user huser hcount hopen =>
    have := hbounded userId user huser
    omega
  | logout access token user huser hid hcount hopen =>
    have := hbounded userId user huser
    split_ifs at hopen <;> omega

/-- An operation keeps the counts exact, if only open sessions are logged out and ids are new. -/
theorem countsExact_step (hlib : lib.Signs) {op : SessionOp}
    {s' : SessionState} (h : Bookkept localTime lib s) (hexact : CountsExact s)
    (hchange : SessionChange localTime pruneFrequency lib s op s') (honce : OncePerToken s op) :
    CountsExact s' := by
  intro userId user' huser'
  cases countChange_of_step hlib h hchange huser' with
  | added username password hid hcount hopen =>
    have honce : openSessions (nextId s.users) s = 0 := honce
    rw [← hid] at honce
    omega
  | same op user huser hcount hopen =>
    have := hexact userId user huser
    omega
  | login op user huser hcount hopen =>
    have := hexact userId user huser
    omega
  | logout access token user huser hid hcount hopen =>
    have honce : IsOpen token.identity s token := honce
    rw [hid] at honce
    rw [if_pos honce] at hopen
    have := hexact userId user huser
    omega

/-! ## Runs -/

/-- At the start the counts are exact. -/
theorem countsExact_start (users : List (String × String)) (accessExpires refreshExpires now : ℤ) :
    CountsExact (SessionState.start users accessExpires refreshExpires now) := by
  have hrows : ∀ (users : List (String × String)) (rows : OrderedDict ℤ Account),
      (∀ row ∈ rows, row.2.loginCount = 0) →
      ∀ row ∈ users.foldl (fun rows user =>
        rows.set (nextId rows) (Account.new user.1 user.2)) rows, row.2.loginCount = 0 := by
    intro users
    induction users with
    | nil => exact fun rows h => h
    | cons user users ih =>
      intro rows h
      refine ih _ fun row hrow => ?_
      rcases OrderedDict.mem_set hrow with rfl | hmem
      · rfl
      · exact h row hmem
  intro userId user huser
  exact hrows users [] (List.forall_mem_nil _) _ (OrderedDict.mem_of_get? huser)

/-- Exact counts are bounded. -/
theorem CountsExact.bounded (h : CountsExact s) : CountsBounded s :=
  fun userId user huser => Nat.le_of_eq (h userId user huser)

/-- **The count of logins**: it is never more than the number of open sessions, and it is that
number if each logout hands in an open session and each new user gets an id of its own. -/
theorem login_count_open (hlib : lib.Signs) {users : List (String × String)}
    {accessExpires refreshExpires now : ℤ} {ops : List SessionOp}
    (h : Run (SessionStep server lib localTime pruneFrequency)
      (SessionState.start users accessExpires refreshExpires now) ops s) :
    CountsBounded s ∧
      (Run (Guarded (SessionStep server lib localTime pruneFrequency) OncePerToken)
        (SessionState.start users accessExpires refreshExpires now) ops s → CountsExact s) := by
  have hexact := countsExact_start users accessExpires refreshExpires now
  have hkept := @bookkept_start localTime lib users accessExpires refreshExpires now
  constructor
  · refine (h.invariant (I := fun s => Bookkept localTime lib s ∧ CountsBounded s) ?_
      ⟨hkept, hexact.bounded⟩).2
    rintro s op s' ⟨hkept, hbounded⟩ hstep
    have hchange := sessionChange_of_step hlib hstep
    exact ⟨bookkept_step hlib hkept hchange, countsBounded_step hlib hkept hbounded hchange⟩
  · intro hguarded
    refine (hguarded.invariant (I := fun s => Bookkept localTime lib s ∧ CountsExact s) ?_
      ⟨hkept, hexact⟩).2
    rintro s op s' ⟨hkept, hexact⟩ ⟨honce, hstep⟩
    have hchange := sessionChange_of_step hlib hstep
    exact ⟨bookkept_step hlib hkept hchange, countsExact_step hlib hkept hexact hchange honce⟩

/-- What has been revoked stays on the list of what has been revoked. -/
theorem revoked_subset {op : SessionOp} {s' : SessionState}
    (hchange : SessionChange localTime pruneFrequency lib s op s') {decoded : DecodedToken}
    (h : decoded ∈ s.tokens.revoked) : decoded ∈ s'.tokens.revoked := by
  cases hchange with
  | nothing => exact h
  | grant => exact h
  | login _ userId ipAddress =>
    show decoded ∈ (changeAccount userId _ _).tokens.revoked
    rw [tokens_changeAccount]
    exact h
  | revokeGone => exact List.mem_cons_of_mem _ h
  | logout access token htoken =>
    show decoded ∈ _ :: (changeAccount token.identity _ _).tokens.revoked
    rw [tokens_changeAccount]
    exact List.mem_cons_of_mem _ h
  | addUser => exact h
  | deleteUser => exact h
  | editUser userId username password active => rwa [tokens_changeAccount]
  | durations => exact h
  | tick => exact h

/-- A logout that succeeds has revoked the token. -/
theorem logout_revokes {access token : Jwt}
    (h : (logout lib localTime pruneFrequency access (some token) s).1 = .noContent) :
    token.decoded ∈ (logout lib localTime pruneFrequency access (some token) s).2.tokens.revoked := by
  revert h
  unfold logout
  dsimp only
  split_ifs
  · exact fun h => nomatch h
  · exact fun h => nomatch h
  · exact fun _ => List.mem_cons_self
  · exact fun h => nomatch h

/-- A token that has been revoked is not taken for a refresh, except for the second after it has
expired. -/
theorem refresh_of_revoked (hexpires : lib.Expires) (hstays : StaysRevoked s.tokens) {token : Jwt}
    (hrevoked : token.decoded ∈ s.tokens.revoked)
    (hsecond : s.tokens.now ≤ token.exp ∨ token.exp + second ≤ s.tokens.now) :
    refresh lib localTime pruneFrequency token s = (.refused, s) := by
  unfold refresh
  refine if_pos ?_
  by_cases hdecodable : decodable lib token s = true
  · have hbefore : s.tokens.now < token.exp + second := hexpires _ _ _ hdecodable
    have hexp : s.tokens.now ≤ token.decoded.exp := hsecond.resolve_right (Int.not_le.mpr hbefore)
    simp [hstays token.decoded hrevoked hexp]
  · simp [hdecodable]

/-- **A session that is over stays over**: while the local clock is not set back, a refresh token
with which a user has logged out is refused ever after. Only in the second after it has expired it
may be taken: its row can be pruned in that second, while the library still takes the token. -/
theorem logged_out_refused (hlib : lib.Signs) (hexpires : lib.Expires)
    (hclock : NeverSetBack localTime)
    {users : List (String × String)} {accessExpires refreshExpires now : ℤ} {ops : List SessionOp}
    (h : Run (SessionStep server lib localTime pruneFrequency)
      (SessionState.start users accessExpires refreshExpires now) ops s) {access token : Jwt}
    (hlogout : (serveSession server lib localTime pruneFrequency s
      (.logout access (some token))).1 = .noContent)
    {later : List SessionOp} {s' : SessionState}
    (hlater : Run (SessionStep server lib localTime pruneFrequency)
      (serveSession server lib localTime pruneFrequency s (.logout access (some token))).2
      later s')
    (hsecond : s'.tokens.now ≤ token.exp ∨ token.exp + second ≤ s'.tokens.now) :
    serveSession server lib localTime pruneFrequency s' (.refresh token) = (.refused, s') := by
  have hstep : ∀ s op s', (Bookkept localTime lib s ∧ StaysRevoked s.tokens) →
      SessionStep server lib localTime pruneFrequency s op s' →
      Bookkept localTime lib s' ∧ StaysRevoked s'.tokens := by
    rintro s op s' ⟨hkept, hstays⟩ hstep
    have hchange := sessionChange_of_step hlib hstep
    exact ⟨bookkept_step hlib hkept hchange,
      staysRevoked_step hlib hclock hkept hstays hchange⟩
  have hbefore := h.invariant hstep ⟨bookkept_start users accessExpires refreshExpires now,
    staysRevoked_start now⟩
  have hafter := hstep s (.logout access (some token)) _ hbefore rfl
  have hrevoked := hlater.invariant (I := fun s => token.decoded ∈ s.tokens.revoked)
    (fun _ _ _ hmem hstep => revoked_subset (sessionChange_of_step hlib hstep) hmem)
    (logout_revokes hlogout)
  exact refresh_of_revoked hexpires (hlater.invariant hstep hafter).2 hrevoked hsecond

end

/-- Every `jti` is longer than the one before. -/
def longerJti (n : ℕ) : String :=
  String.ofList (List.replicate n 'a')

/-- The ids of the example's tokens are distinct. -/
theorem longerJti_injective : Function.Injective longerJti := by
  intro m n h
  have hlists := congrArg String.toList h
  simpa [longerJti] using congrArg List.length hlists

/-- A time without what is left of a second. -/
def wholeSecond (time : ℤ) : ℤ :=
  time / second * second

/-- Tokens expire at whole seconds, and the clock is read in whole seconds. -/
def wholeSeconds : JwtLibrary where
  uuid4 := longerJti
  expiry now duration := wholeSecond (now + duration)
  decodes issued now token := token ∈ issued && wholeSecond now ≤ token.exp

/-- The example's library signs its tokens. -/
theorem signs_wholeSeconds : wholeSeconds.Signs where
  uuid4 := longerJti_injective
  signed := by
    intro issued now token h
    simp only [wholeSeconds, Bool.and_eq_true, decide_eq_true_eq] at h
    exact h.1

/-- The example's library refuses expired tokens. -/
theorem expires_wholeSeconds : wholeSeconds.Expires := by
  intro issued now token h
  simp only [wholeSeconds, Bool.and_eq_true, decide_eq_true_eq] at h
  have hwhole : now < wholeSecond now + second := by
    unfold wholeSecond second
    omega
  omega

/-- The tokens of the first login of the first user. -/
def firstTokens : Jwt × Jwt :=
  ({ refresh := false, fresh := true, jti := longerJti 0, identity := 1, exp := 900 * second },
   { refresh := true, fresh := false, jti := longerJti 1, identity := 1, exp := 9000 * second })

/-- A password is its own hash. -/
def plainPasswords : Server where
  bindable _ := true
  hash _ password := some password
  verify attempt hash := some (attempt = hash)

/-- The login of the first user. -/
def firstLogin : SessionOp :=
  .login (some "ada") (some "secret") "127.0.0.1"

/-- The first user logs in; the table is pruned at every revocation. -/
def loggedIn : SessionState :=
  (serveSession plainPasswords wholeSeconds id 1
    (.start [("ada", "secret")] (900 * second) (9000 * second) 0) firstLogin).2

/-- The user of the example logs in. -/
theorem run_loggedIn : Run (SessionStep plainPasswords wholeSeconds id 1)
    (SessionState.start [("ada", "secret")] (900 * second) (9000 * second) 0) [firstLogin]
    loggedIn :=
  .single rfl

/-- The first user logs out. -/
def loggedOut : AuthResponse × SessionState :=
  serveSession plainPasswords wholeSeconds id 1 loggedIn
    (.logout firstTokens.1 (some firstTokens.2))

/-- Half a minute after the logout. -/
def wentBy : SessionState :=
  (serveSession plainPasswords wholeSeconds id 1 loggedOut.2 (.tick 30000000)).2

/-- The token of a session that was ended is refused. -/
theorem logged_out_refused_one :
    (serveSession plainPasswords wholeSeconds id 1 wentBy (.refresh firstTokens.2)).1 =
      .refused := by
  have hlogout : loggedOut.1 = .noContent := by decide
  have hlater : Run (SessionStep plainPasswords wholeSeconds id 1) loggedOut.2 [.tick 30000000]
      wentBy :=
    .single rfl
  exact congrArg Prod.fst (logged_out_refused signs_wholeSeconds expires_wholeSeconds
    (fun _ _ h => h) run_loggedIn hlogout hlater (.inl (by decide)))

/-- The tokens of a login half a second after the refresh token of the first one has expired. -/
def secondTokens : Jwt × Jwt :=
  ({ refresh := false, fresh := true, jti := longerJti 2, identity := 1, exp := 9900 * second },
   { refresh := true, fresh := false, jti := longerJti 3, identity := 1, exp := 18000 * second })

-- A logout with these tokens prunes the row of the first refresh token, which is then taken.
example :
    (serveSession plainPasswords wholeSeconds id 1
      ([.tick 9000500000, firstLogin, .logout secondTokens.1 (some secondTokens.2)].foldl
        (fun s op => (serveSession plainPasswords wholeSeconds id 1 s op).2) loggedOut.2)
      (.refresh firstTokens.2)).1 ≠ .refused := by
  decide

/-- After the login the count is bounded. -/
theorem login_count_open_one :
    CountsBounded loggedIn :=
  (login_count_open signs_wholeSeconds run_loggedIn).1

end Walkoff.Analysis
