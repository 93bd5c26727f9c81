import Walkoff.Program.Tokens
import Walkoff.Program.Users

/-!
# Logging in and out

`walkoff.server.endpoints.auth` with what it uses of the users and of the revoked tokens. The
libraries for tokens are parameters: they make tokens up and decode them. A token of the wrong type
and a refresh token that has been revoked are refused. Times are in microseconds.
-/

set_option autoImplicit false

namespace Walkoff.Program

open Walkoff.Library
open Walkoff.Library.OrderedDict (nextId)

/-- A JSON web token. -/
structure Jwt where
  refresh : Bool
  fresh : Bool
  jti : String
  identity : ℤ
  exp : ℤ
  deriving DecidableEq, Repr

/-- The token as `revoke_token` reads it; the identity goes into a column of texts. -/
def Jwt.decoded (token : Jwt) : DecodedToken :=
  { jti := token.jti, userIdentity := toString token.identity, exp := token.exp }

/-- A second. -/
def second : ℤ :=
  1000000

/-- What `flask_jwt_extended` and the library below it do: the ids they give to tokens, the claim
`exp` of a token that is created at a time for a duration, and whether `decode_token` takes a token
at a time, when some tokens have been issued. -/
structure JwtLibrary where
  uuid4 : ℕ → String
  expiry : ℤ → ℤ → ℤ
  decodes : List Jwt → ℤ → Jwt → Bool

/-- No two tokens have one id, and a token that is decoded has the signature of one that has been
issued. -/
structure JwtLibrary.Signs (lib : JwtLibrary) : Prop where
  uuid4 : Function.Injective lib.uuid4
  signed : ∀ issued now token, lib.decodes issued now token = true → token ∈ issued

/-- A token is refused once it has expired. The library reads the clock in whole seconds, so that it
may take a token for up to a second longer. -/
def JwtLibrary.Expires (lib : JwtLibrary) : Prop :=
  ∀ issued now token, lib.decodes issued now token = true → now < token.exp + second

/-- A row of the table `user`, with its columns about logins. -/
structure Account where
  username : String
  password : String
  active : Bool
  lastLoginAt : Option ℤ
  currentLoginAt : Option ℤ
  lastLoginIp : Option String
  currentLoginIp : Option String
  loginCount : ℕ
  deriving DecidableEq, Repr

namespace Account

/-- `User(name, password)`. -/
def new (username password : String) : Account :=
  { username, password, active := true, lastLoginAt := none, currentLoginAt := none
    lastLoginIp := none, currentLoginIp := none, loginCount := 0 }

/-- `User.login`. -/
def login (now : ℤ) (ipAddress : String) (self : Account) : Account :=
  { self with
    lastLoginAt := self.currentLoginAt
    currentLoginAt := some now
    lastLoginIp := self.currentLoginIp
    currentLoginIp := some ipAddress
    loginCount := self.loginCount + 1 }

/-- `User.logout`: a count that is already at 0 only gives a warning. -/
def logout (self : Account) : Account :=
  if self.loginCount > 0 then { self with loginCount := self.loginCount - 1 } else self

end Account

/-- The users, the clock with the revoked tokens, the two durations of the configuration, and all
tokens that have been issued. -/
structure SessionState where
  users : OrderedDict ℤ Account
  tokens : TokenState
  accessExpires : ℤ
  refreshExpires : ℤ
  issued : List Jwt

/-- Before anyone has logged in. -/
def SessionState.start (users : List (String × String)) (accessExpires refreshExpires now : ℤ) :
    SessionState :=
  { users := users.foldl (fun rows (username, password) =>
      rows.set (nextId rows) (Account.new username password)) []
    tokens := TokenState.start now
    accessExpires
    refreshExpires
    issued := [] }

/-- What is answered. `refused` is the answer of the library to a token, `raised` that of the
server to an exception. -/
inductive AuthResponse where
  | granted (accessToken : Jwt) (refreshToken : Option Jwt)
  | noContent
  | done
  | problem (status : ℕ) (title detail : String)
  | refused
  | raised
  deriving DecidableEq, Repr

/-- `invalid_username_password_problem`. -/
def invalidUsernamePasswordProblem : AuthResponse :=
  .problem 401 "Could not grant access token." "Invalid username or password."

/-- `user_deactivated_problem`. -/
def userDeactivatedProblem : AuthResponse :=
  .problem 401 "Could not grant access token." "User is deactivated."

section

variable (server : Server) (lib : JwtLibrary) (localTime : ℤ → ℤ) (pruneFrequency : ℕ)

/-- `create_access_token` and `create_refresh_token`. -/
def createToken (refresh fresh : Bool) (identity : ℤ) (s : SessionState) : Jwt × SessionState :=
  let token : Jwt :=
    { refresh, fresh, jti := lib.uuid4 s.issued.length, identity
      exp := lib.expiry s.tokens.now (if refresh then s.refreshExpires else s.accessExpires) }
  (token, { s with issued := s.issued ++ [token] })

/-- `decode_token` takes the token. -/
def decodable (token : Jwt) (s : SessionState) : Bool :=
  lib.decodes s.issued s.tokens.now token

/-- `revoke_token`. -/
def revoke (token : Jwt) (s : SessionState) : SessionState :=
  { s with
    tokens := { s.tokens with
      store := revokeToken localTime pruneFrequency s.tokens.now token.decoded s.tokens.store
      revoked := token.decoded :: s.tokens.revoked } }

/-- The account of a user is changed. -/
def changeAccount (userId : ℤ) (f : Account → Account) (s : SessionState) : SessionState :=
  match s.users.get? userId with
  | some user => { s with users := s.users.set userId (f user) }
  | none => s

/-- The end of `_authenticate_and_grant_tokens`, for a password that has been verified. -/
def grantTokens (withRefresh : Bool) (ipAddress : String) (userId : ℤ) (s : SessionState) :
    AuthResponse × SessionState :=
  let (access, s) := createToken lib false true userId s
  if withRefresh then
    let s := changeAccount userId (Account.login s.tokens.now ipAddress) s
    let (refresh, s) := createToken lib true false userId s
    (.granted access (some refresh), s)
  else (.granted access none, s)

/-- `_authenticate_and_grant_tokens`. -/
def authenticateAndGrantTokens (withRefresh : Bool) (ipAddress : String)
    (username password : Option String) (s : SessionState) : AuthResponse × SessionState :=
  if username.getD "" = "" ∨ password.getD "" = "" then (invalidUsernamePasswordProblem, s)
  else
    match s.users.find? (·.2.username = username.getD "") with
    | none => (invalidUsernamePasswordProblem, s)
    | some (userId, user) =>
      if !user.active then (userDeactivatedProblem, s)
      else
        match server.verify (password.getD "") user.password with
        | none => (.raised, s)
        | some false => (invalidUsernamePasswordProblem, s)
        | some true => grantTokens lib withRefresh ipAddress userId s

/-- `refresh`: a token whose user is gone is revoked. -/
def refresh (token : Jwt) (s : SessionState) : AuthResponse × SessionState :=
  if !decodable lib token s || !token.refresh || isTokenRevoked token.decoded s.tokens.store then
    (.refused, s)
  else
    match s.users.get? token.identity with
    | none =>
      (.problem 401 "Could not grant access token."
        ("User " ++ toString token.identity ++ " from refresh JWT identity could not be found."),
        revoke localTime pruneFrequency token s)
    | some user =>
      if user.active then
        let (access, s) := createToken lib false false token.identity s
        (.granted access none, s)
      else (userDeactivatedProblem, s)

/-- `logout`. Only refresh tokens are looked up among the revoked ones, and the token in the body is
not looked up at all. -/
def logout (access : Jwt) (refreshToken : Option Jwt) (s : SessionState) :
    AuthResponse × SessionState :=
  if !decodable lib access s || access.refresh then (.refused, s)
  else
    match refreshToken with
    | none => (.problem 400 "Could not logout." "A refresh token is required to logout.", s)
    | some token =>
      if !decodable lib token s then (.refused, s)
      else if access.identity = token.identity then
        (.noContent,
          revoke localTime pruneFrequency token (changeAccount token.identity Account.logout s))
      else (.problem 400 "Could not logout."
        "The identity of the refresh token does not match the identity of the authentication token.",
        s)

/-- `_reset_token_durations`. -/
def resetTokenDurations (accessTokenDuration refreshTokenDuration : Option ℤ) (s : SessionState) :
    AuthResponse × SessionState :=
  let access := accessTokenDuration.getD s.accessExpires
  let refresh := refreshTokenDuration.getD s.refreshExpires
  if access < refresh then (.done, { s with accessExpires := access, refreshExpires := refresh })
  else (.problem 400 "Could not update configuration."
    "Access token duration must be less than refresh token duration.", s)

/-- What can happen: the requests about tokens, what administrators do to the users and to the
durations, and time. -/
inductive SessionOp where
  | login (username password : Option String) (ipAddress : String)
  | freshLogin (username password : Option String)
  | refresh (token : Jwt)
  | logout (access : Jwt) (refreshToken : Option Jwt)
  | addUser (username password : String)
  | deleteUser (userId : ℤ)
  | editUser (userId : ℤ) (username password : String) (active : Bool)
  | resetTokenDurations (access refresh : Option ℤ)
  | tick (elapsed : ℕ)

/-- The answer to an operation, and the state after it. -/
def serveSession (s : SessionState) : SessionOp → AuthResponse × SessionState
  | .login username password ipAddress =>
    authenticateAndGrantTokens server lib true ipAddress username password s
  | .freshLogin username password =>
    authenticateAndGrantTokens server lib false "" username password s
  | .refresh token => refresh lib localTime pruneFrequency token s
  | .logout access refreshToken => logout lib localTime pruneFrequency access refreshToken s
  | .addUser username password =>
    (.done, { s with users := s.users.set (nextId s.users) (Account.new username password) })
  | .deleteUser userId => (.done, { s with users := s.users.pop userId })
  | .editUser userId username password active =>
    (.done, changeAccount userId (fun user => { user with username, password, active }) s)
  | .resetTokenDurations access refresh => resetTokenDurations access refresh s
  | .tick elapsed => (.done, { s with tokens := { s.tokens with now := s.tokens.now + elapsed } })

/-- One operation after the other. -/
def SessionStep (s : SessionState) (op : SessionOp) (s' : SessionState) : Prop :=
  (serveSession server lib localTime pruneFrequency s op).2 = s'

end

end Walkoff.Program
