import Walkoff.Library.Transition
import Walkoff.Program.Users

/-!
# Privileges

Every way a request can end and what it commits, endpoint by endpoint. A request without the
administrator's role grants nothing and leaves other users alone. A request that is answered
with an error commits nothing, with one exception: the creation of a user commits before it
looks up the roles.
-/

set_option autoImplicit false

namespace Walkoff.Analysis

open Walkoff.Program
open Walkoff.Library
open Walkoff.Library.OrderedDict (nextId nextId_not_mem)

/-- A user has a role. -/
def HasRole (db : ServerDb) (userId roleId : ℤ) : Prop :=
  ∃ user, db.users.get? userId = some user ∧ roleId ∈ user.roles

/-- A role has a permission on a resource. -/
def HasPermission (db : ServerDb) (roleId : ℤ) (n p : String) : Prop :=
  ∃ role, db.roles.get? roleId = some role ∧
    ∃ resource ∈ role.resources, resource.name = n ∧ p ∈ resource.permissions

/-- The current password of a user is in the request. -/
def SuppliesPassword (server : Server) (request : UserRequest) (userId : ℤ) (user : User) : Prop :=
  ∃ body old, (request = .updateUser body ∨ request = .patchUser body) ∧ body.id = userId ∧
    body.data.oldPassword = some old ∧ server.verify old user.password = some true

/-- What is asked of a request that turns `db` into `db'` and is answered with a status. -/
structure Harmless (server : Server) (db : ServerDb) (call : UserCall) (status : ℕ) (db' : ServerDb) :
    Prop where
  roles : 1 ∉ call.claims.roles → ∀ userId roleId, HasRole db' userId roleId → HasRole db userId roleId
  permissions : 1 ∉ call.claims.roles →
    ∀ roleId n p, HasPermission db' roleId n p → HasPermission db roleId n p
  others : 1 ∉ call.claims.roles → ∀ userId, call.claims.identity ≠ some userId → ∀ user user',
    db.users.get? userId = some user → db'.users.get? userId = some user' →
    user'.username = user.username ∧ user'.password = user.password ∧ user'.active = user.active
  password : ∀ userId user user', db.users.get? userId = some user →
    db'.users.get? userId = some user' → user'.password ≠ user.password →
    SuppliesPassword server call.request userId user
  error : status ≥ 400 → db' = db

/-- When the request is the creation of a user that an administrator asks for and that gets as
far as the lookup of the roles, the database driver takes their ids. -/
def RolesBindable (server : Server) (db : ServerDb) (call : UserCall) : Prop :=
  ∀ body roles, call.request = .createUser body → body.roles = some roles → roles ≠ [] →
    1 ∈ call.claims.roles →
    permissionsAcceptedForResources db.roles [⟨"users", ["create"]⟩] call.claims.roles = true →
    db.userNamed body.username = none → server.hash call.salt body.password ≠ none →
    server.bindable roles.dedup = true

/-- The tables after a user is added. -/
def ServerDb.addUser (user : User) (db : ServerDb) : ServerDb :=
  { db with users := db.users.set (nextId db.users) user }

/-- The tables with another row for a user. -/
def ServerDb.setUser (userId : ℤ) (user : User) (db : ServerDb) : ServerDb :=
  { db with users := db.users.set userId user }

/-- What a request can commit, and the status it is answered with. -/
inductive Outcome (server : Server) (db : ServerDb) (call : UserCall) : ℕ × ServerDb → Prop where
  | unchanged (status : ℕ) : Outcome server db call (status, db)
  | userAdded (user : User) (hroles : 1 ∉ call.claims.roles → user.roles = []) :
    Outcome server db call (201, ServerDb.addUser user db)
  | userLeft (user : User) (hroles : user.roles = []) (hnot : ¬ RolesBindable server db call) :
    Outcome server db call (500, ServerDb.addUser user db)
  | userEdited (userId : ℤ) (user user' : User) (hold : db.users.get? userId = some user)
    (hself : call.claims.identity = some userId ∨ 1 ∈ call.claims.roles)
    (hroles : 1 ∉ call.claims.roles → user'.roles = user.roles)
    (hpassword : user'.password ≠ user.password →
      SuppliesPassword server call.request userId user) :
    Outcome server db call (200, ServerDb.setUser userId user' db)
  | userDeleted (userId : ℤ) :
    Outcome server db call (204, { db with users := db.users.pop userId })
  | rolesEdited (status : ℕ) (db' : ServerDb) (hstatus : status < 400)
    (hadmin : 1 ∈ call.claims.roles)
    (husers : ∀ userId user user', db.users.get? userId = some user →
      db'.users.get? userId = some user' → user'.password = user.password) :
    Outcome server db call (status, db')

/-! ## The parts of an endpoint -/

section Parts

variable {server : Server} {salt : ℕ} {claims : Claims}

/-- Editing a user that was set sets the edited one. -/
theorem ServerDb.editUser_setUser (userId : ℤ) (user : User) (f : User → User) (db : ServerDb) :
    (ServerDb.setUser userId user db).editUser userId f = ServerDb.setUser userId (f user) db := by
  simp [ServerDb.setUser, ServerDb.editUser]

/-- Setting a user to itself changes nothing. -/
theorem ServerDb.setUser_eq_self {userId : ℤ} {user : User} {db : ServerDb}
    (h : db.users.get? userId = some user) : ServerDb.setUser userId user db = db := by
  unfold ServerDb.setUser
  rw [OrderedDict.set_eq_self h]

/-- An edit changes what is current and not what is committed. -/
theorem edit_apply (f : ServerDb → ServerDb) (committed current : ServerDb) :
    edit f ⟨committed, current⟩ = .ok () ⟨committed, f current⟩ := rfl

/-- Reading gives what is current. -/
theorem current_apply (committed now : ServerDb) :
    current ⟨committed, now⟩ = .ok now ⟨committed, now⟩ := rfl

/-- Ids that the database takes are bound. -/
theorem bindIds_of_bindable {ids : List ℤ} (h : server.bindable ids = true) (s : Session) :
    bindIds server ids s = .ok () s := by
  unfold bindIds
  rw [if_pos h]
  rfl

/-- Ids that it does not take raise `OverflowError`. -/
theorem bindIds_of_not_bindable {ids : List ℤ} (h : ¬ server.bindable ids = true) (s : Session) :
    bindIds server ids s = .error .overflowError s := by
  unfold bindIds
  rw [if_neg h]
  rfl

/-- `set_roles` changes the roles of the user, or raises because of the ids. -/
theorem setRoles_ends (userId : ℤ) (newRoles : List ℤ) (user : User) (db committed : ServerDb) :
    Ends (fun _ s => ∃ roles,
        s = ⟨committed, ServerDb.setUser userId { user with roles := roles } db⟩)
      (fun _ s => s.committed = committed ∧ newRoles ≠ [] ∧ server.bindable newRoles.dedup = false)
      (setRoles server userId newRoles ⟨committed, ServerDb.setUser userId user db⟩) := by
  have hset := ServerDb.editUser_setUser userId user (fun user =>
    { user with roles := db.roles.keys.filter (· ∈ newRoles.dedup) }) db
  unfold setRoles
  by_cases hempty : newRoles.dedup.isEmpty = true
  · rw [if_pos hempty]
    exact ⟨_, congrArg (Session.mk committed) hset⟩
  · rw [if_neg hempty]
    by_cases hbind : server.bindable newRoles.dedup = true
    · rw [bind_of_ok (bindIds_of_bindable hbind _)]
      exact ⟨_, congrArg (Session.mk committed) hset⟩
    · rw [bind_of_error (bindIds_of_not_bindable hbind _)]
      refine ⟨rfl, ?_, by simpa using hbind⟩
      rintro rfl
      simp at hempty

/-- `role_update_user_fields` is refused, or changes the roles and the flag of the user, or
raises because of the ids. -/
theorem roleUpdateUserFields_ends (data : UserData) (userId : ℤ) (user : User)
    (db committed : ServerDb) :
    Ends (fun allowed s => (allowed = false ∧ 1 ∉ claims.roles ∧
          s = ⟨committed, ServerDb.setUser userId user db⟩) ∨
        (allowed = true ∧ 1 ∈ claims.roles ∧ ∃ roles active, s = ⟨committed, ServerDb.setUser userId
          { user with roles := roles, active := active } db⟩))
      (fun _ s => s.committed = committed ∧ 1 ∈ claims.roles ∧
        ∃ roles, data.roles = some roles ∧ roles ≠ [] ∧ server.bindable roles.dedup = false)
      (roleUpdateUserFields server claims data userId
        ⟨committed, ServerDb.setUser userId user db⟩) := by
  unfold roleUpdateUserFields
  by_cases hadmin : adminRequired claims.roles = true
  · have hone := (adminRequired_iff claims.roles).mp hadmin
    rw [if_pos hadmin]
    have hroles : Ends (fun _ s => ∃ roles,
          s = ⟨committed, ServerDb.setUser userId { user with roles := roles } db⟩)
        (fun _ s => s.committed = committed ∧ 1 ∈ claims.roles ∧
          ∃ roles, data.roles = some roles ∧ roles ≠ [] ∧ server.bindable roles.dedup = false)
        (ifGiven data.roles (setRoles server userId)
          ⟨committed, ServerDb.setUser userId user db⟩) := by
      cases data.roles with
      | none => exact ⟨user.roles, rfl⟩
      | some roles =>
        refine (setRoles_ends userId roles user db committed).mono (fun _ _ h => h) ?_
        rintro _ s ⟨hcommitted, hne, hbind⟩
        exact ⟨hcommitted, hone, roles, rfl, hne, hbind⟩
    refine hroles.bind ?_ (fun _ _ h => h)
    rintro _ _ ⟨roles, rfl⟩
    cases data.active with
    | none => exact .inr ⟨rfl, hone, roles, user.active, rfl⟩
    | some active =>
      refine .inr ⟨rfl, hone, roles, active, ?_⟩
      exact congrArg (Session.mk committed) (ServerDb.editUser_setUser userId _ _ db)
  · rw [if_neg hadmin]
    exact .inl ⟨rfl, fun h => hadmin ((adminRequired_iff _).mpr h), rfl⟩

/-- The password is found wrong, or it is changed only with the current one. -/
theorem updatePassword_ends (data : UserData) (userId : ℤ) (user row : User)
    (db committed : ServerDb) :
    Ends (fun wrong s => (wrong = true ∧ s = ⟨committed, ServerDb.setUser userId row db⟩) ∨
        (wrong = false ∧ ∃ password,
          s = ⟨committed, ServerDb.setUser userId { row with password := password } db⟩ ∧
          (password ≠ row.password → ∃ old, data.oldPassword = some old ∧
            server.verify old user.password = some true)))
      (fun _ s => s.committed = committed)
      (updatePassword server salt data userId user
        ⟨committed, ServerDb.setUser userId row db⟩) := by
  unfold updatePassword
  cases data.oldPassword with
  | none => exact .inr ⟨rfl, row.password, rfl, fun h => absurd rfl h⟩
  | some old =>
    cases data.password with
    | none => exact .inr ⟨rfl, row.password, rfl, fun h => absurd rfl h⟩
    | some password =>
      dsimp only
      unfold verifyPassword
      cases hverify : server.verify old user.password with
      | none => exact rfl
      | some verified =>
        rw [bind_of_ok (pure_apply _ _)]
        cases verified with
        | false => exact .inl ⟨rfl, rfl⟩
        | true =>
          unfold hashPassword
          cases server.hash salt password with
          | none => exact rfl
          | some hash =>
            refine .inr ⟨rfl, hash, ?_, fun _ => ⟨old, rfl, hverify⟩⟩
            exact congrArg (Session.mk committed) (ServerDb.editUser_setUser userId _ _ db)

/-- `update_user_fields` answers with an error and commits nothing, or commits the name and
the password. -/
theorem updateUserFields_ends (data : UserData) (userId : ℤ) (user row : User)
    (db committed : ServerDb) :
    Ends (fun response s => s.committed = committed ∨
        (response.status = 200 ∧ ∃ username password,
          s.committed =
            ServerDb.setUser userId { row with username := username, password := password } db ∧
          (password ≠ row.password → ∃ old, data.oldPassword = some old ∧
            server.verify old user.password = some true)))
      (fun _ s => s.committed = committed)
      (updateUserFields server salt data userId user
        ⟨committed, ServerDb.setUser userId row db⟩) := by
  unfold updateUserFields
  rw [bind_of_ok (current_apply _ _)]
  by_cases htaken : usernameTaken data userId (ServerDb.setUser userId row db) = true
  · rw [if_pos htaken]
    exact .inl rfl
  · rw [if_neg htaken, bind_of_ok (edit_apply _ _ _), ServerDb.editUser_setUser]
    refine (updatePassword_ends data userId user _ db committed).bind ?_ (fun _ _ h => h)
    rintro wrong s (⟨rfl, rfl⟩ | ⟨rfl, password, rfl, hverified⟩)
    · exact .inl rfl
    · exact .inr ⟨rfl, _, password, rfl, hverified⟩

end Parts

/-! ## The endpoints -/

section Endpoints

variable {server : Server} {db : ServerDb} {call : UserCall}

/-- A computation of a request ends in an outcome of it. -/
def Leaves (server : Server) (db : ServerDb) (call : UserCall)
    (r : EStateM.Result ServerError Session Response) : Prop :=
  Ends (fun response s => Outcome server db call (response.status, s.committed))
    (fun _ s => Outcome server db call (500, s.committed)) r

/-- What a computation leaves is the outcome of its answer. -/
theorem Leaves.answer {r : EStateM.Result ServerError Session Response}
    (h : Leaves server db call r) : Outcome server db call (answer r) := by
  cases r with
  | ok response s => exact h
  | error e s => exact h

/-- A view behind a permission leaves an outcome if it does with the permission. -/
theorem withPermission_leaves {resource permission : String} {view : Serving Response}
    (hview : permissionsAcceptedForResources db.roles [⟨resource, [permission]⟩]
      call.claims.roles = true → Leaves server db call (view ⟨db, db⟩)) :
    Leaves server db call (withPermission call.claims resource permission view ⟨db, db⟩) := by
  unfold withPermission
  rw [bind_of_ok (current_apply _ _)]
  split
  · rename_i haccepted
    exact hview haccepted
  · exact .unchanged _

/-- A view for admins leaves an outcome if it does for them. -/
theorem withAdmin_leaves {view : Serving Response}
    (hview : 1 ∈ call.claims.roles → Leaves server db call (view ⟨db, db⟩)) :
    Leaves server db call (withAdmin call.claims view ⟨db, db⟩) := by
  unfold withAdmin
  split
  · rename_i hadmin
    exact hview ((adminRequired_iff _).mp hadmin)
  · exact .unchanged _

/-- A view of a row leaves an outcome if it does for every row found. -/
theorem answerFound_leaves {α : Type} {resource title operation : String} {id : ℤ}
    {view : α → Serving Response} {found : Option α}
    (hview : ∀ row, found = some row → Leaves server db call (view row ⟨db, db⟩)) :
    Leaves server db call (answerFound resource title operation id view found ⟨db, db⟩) := by
  cases found with
  | none => exact .unchanged _
  | some row => exact hview row rfl

/-- A guarded view of a user leaves an outcome if it does behind the guard. -/
theorem withUser_leaves {operation : String} {userId : ℤ}
    {guard : Serving Response → Serving Response} {view : User → Serving Response}
    (hguarded : Leaves server db call
      (guard (answerFound "user" "User" operation userId view (db.users.get? userId)) ⟨db, db⟩)) :
    Leaves server db call (withUser server operation userId guard view ⟨db, db⟩) := by
  unfold withUser
  by_cases hbind : server.bindable [userId] = true
  · rw [bind_of_ok (bindIds_of_bindable hbind _), bind_of_ok (current_apply _ _)]
    exact hguarded
  · rw [bind_of_error (bindIds_of_not_bindable hbind _)]
    exact .unchanged _

/-- The same of a role. -/
theorem withRole_leaves {operation : String} {roleId : ℤ}
    {guard : Serving Response → Serving Response} {view : Role → Serving Response}
    (hguarded : Leaves server db call
      (guard (answerFound "role" "Role" operation roleId view (db.roles.get? roleId)) ⟨db, db⟩)) :
    Leaves server db call (withRole server operation roleId guard view ⟨db, db⟩) := by
  unfold withRole
  by_cases hbind : server.bindable [roleId] = true
  · rw [bind_of_ok (bindIds_of_bindable hbind _), bind_of_ok (current_apply _ _)]
    exact hguarded
  · rw [bind_of_error (bindIds_of_not_bindable hbind _)]
    exact .unchanged _

/-- Deleting a user leaves an outcome. -/
theorem deleteUser_leaves (userId : ℤ) :
    Leaves server db call (deleteUser server call.claims userId ⟨db, db⟩) := by
  apply withUser_leaves
  apply withPermission_leaves
  intro _
  apply answerFound_leaves
  intro _ _
  split
  · exact .unchanged _
  · exact .userDeleted userId

/-- Updating a user leaves an outcome. -/
theorem updateUser_leaves {body : EditUser}
    (hbody : call.request = .updateUser body ∨ call.request = .patchUser body) :
    Leaves server db call (updateUser server call.salt call.claims body ⟨db, db⟩) := by
  apply withUser_leaves
  apply answerFound_leaves
  intro user huser
  have hself := ServerDb.setUser_eq_self huser
  have hsupplies : (∃ old, body.data.oldPassword = some old ∧
      server.verify old user.password = some true) →
      SuppliesPassword server call.request body.id user := by
    rintro ⟨old, hold, hverify⟩
    exact ⟨body, old, hbody, rfl, hold, hverify⟩
  by_cases hidentity : call.claims.identity = some body.id
  · rw [if_pos hidentity]
    have hends := @updateUserFields_ends server call.salt body.data body.id user user db db
    rw [hself] at hends
    refine hends.mono ?_ ?_
    · rintro response s (hsame | ⟨hstatus, username, password, hcommitted, hpassword⟩)
      · rw [hsame]
        exact .unchanged _
      · rw [hstatus, hcommitted]
        exact .userEdited body.id user _ huser (.inl hidentity) (fun _ => rfl)
          (fun hne => hsupplies (hpassword hne))
    · intro _ s hsame
      rw [hsame]
      exact .unchanged _
  · rw [if_neg hidentity]
    have hends := @roleUpdateUserFields_ends server call.claims body.data body.id user db db
    rw [hself] at hends
    refine hends.bind ?_ ?_
    · rintro allowed s (⟨rfl, -, rfl⟩ | ⟨rfl, hadmin, roles, active, rfl⟩)
      · exact .unchanged _
      · refine (updateUserFields_ends body.data body.id user _ db db).mono ?_ ?_
        · rintro response s (hsame | ⟨hstatus, username, password, hcommitted, hpassword⟩)
          · rw [hsame]
            exact .unchanged _
          · rw [hstatus, hcommitted]
            exact .userEdited body.id user _ huser (.inr hadmin) (fun h => absurd hadmin h)
              (fun hne => hsupplies (hpassword hne))
        · intro _ s hsame
          rw [hsame]
          exact .unchanged _
    · rintro _ s ⟨hsame, -⟩
      rw [hsame]
      exact .unchanged _

/-- The row of a user that was just added. -/
def newUser (username hash : String) : User :=
  { username, password := hash, active := true, roles := [] }

/-- A name that is free is added and committed at once. -/
theorem addUser_of_free {username password hash : String} (hfree : db.userNamed username = none)
    (hhash : server.hash call.salt password = some hash) :
    addUser server call.salt username password ⟨db, db⟩ =
      .ok (some (nextId db.users)) ⟨ServerDb.addUser (newUser username hash) db,
        ServerDb.addUser (newUser username hash) db⟩ := by
  unfold addUser hashPassword
  rw [bind_of_ok (current_apply _ _), hfree, hhash]
  rfl

/-- A password that cannot be hashed raises `PasswordError`. -/
theorem addUser_of_no_hash {username password : String} (hfree : db.userNamed username = none)
    (hhash : server.hash call.salt password = none) :
    addUser server call.salt username password ⟨db, db⟩ = .error .passwordError ⟨db, db⟩ := by
  unfold addUser hashPassword
  rw [bind_of_ok (current_apply _ _), hfree, hhash]
  rfl

/-- Creating a user leaves an outcome. -/
theorem createUser_leaves {body : AddUser} (hbody : call.request = .createUser body) :
    Leaves server db call (createUser server call.salt call.claims body ⟨db, db⟩) := by
  apply withPermission_leaves
  intro hpermission
  rw [bind_of_ok (current_apply _ _)]
  cases hfree : db.userNamed body.username with
  | some _ => exact .unchanged _
  | none =>
    dsimp only
    cases hhash : server.hash call.salt body.password with
    | none =>
      rw [bind_of_error (addUser_of_no_hash hfree hhash)]
      exact .unchanged _
    | some hash =>
      rw [bind_of_ok (addUser_of_free hfree hhash)]
      dsimp only
      by_cases hfields : (body.roles.isSome || body.active.isSome) = true
      · rw [if_pos hfields]
        refine (roleUpdateUserFields_ends body.data (nextId db.users) _ db _).discard.bind ?_ ?_
        · rintro _ s ⟨_, ⟨-, -, rfl⟩ | ⟨-, hadmin, roles, active, rfl⟩⟩
          · exact .userAdded _ (fun _ => rfl)
          · exact .userAdded _ (fun h => absurd hadmin h)
        · rintro _ s ⟨hcommitted, hadmin, roles, hroles, hne, hbind⟩
          rw [hcommitted]
          refine .userLeft _ rfl ?_
          intro hbindable
          have := hbindable body roles hbody hroles hne hadmin hpermission hfree
            (by rw [hhash]; exact Option.some_ne_none _)
          rw [hbind] at this
          cases this
      · rw [if_neg hfields]
        exact .userAdded _ (fun _ => rfl)

/-- Creating a role leaves an outcome. -/
theorem createRole_leaves (body : AddRole) :
    Leaves server db call (createRole call.claims body ⟨db, db⟩) := by
  apply withAdmin_leaves
  intro hadmin
  rw [bind_of_ok (current_apply _ _)]
  cases db.roleNamed body.name with
  | some _ => exact .unchanged _
  | none =>
    dsimp only
    cases readResources (body.resources.getD []) with
    | error e => exact .unchanged _
    | ok resources =>
      refine .rolesEdited 201 _ (by decide) hadmin ?_
      intro userId user user' hold hnew
      rw [Option.some.inj (hold.symm.trans hnew)]

/-- A change of the row of a role leaves the users alone. -/
theorem users_editRole (roleId : ℤ) (f : Role → Role) (db : ServerDb) :
    (db.editRole roleId f).users = db.users := by
  unfold ServerDb.editRole
  split <;> rfl

/-- Updating a role leaves an outcome. -/
theorem updateRole_leaves (body : EditRole) :
    Leaves server db call (updateRole server call.claims body ⟨db, db⟩) := by
  apply withRole_leaves
  apply withAdmin_leaves
  intro hadmin
  apply answerFound_leaves
  intro _ _
  rw [bind_of_ok (edit_apply _ _ _)]
  have hcommits : ∀ db' : ServerDb, db'.users = db.users →
      Outcome server db call (200, db') := by
    intro db' husers
    refine .rolesEdited 200 db' (by decide) hadmin ?_
    intro userId user user' hold hnew
    rw [husers] at hnew
    rw [Option.some.inj (hold.symm.trans hnew)]
  unfold ifGiven
  cases body.resources with
  | none => exact hcommits _ (users_editRole _ _ _)
  | some resources =>
    dsimp only
    cases readResources resources with
    | error e => exact .unchanged _
    | ok resources =>
      exact hcommits _ ((users_editRole _ _ _).trans (users_editRole _ _ _))

/-- The passwords after a role is deleted are those before. -/
theorem password_deleteRole {roleId userId : ℤ} {users : OrderedDict ℤ User} {user user' : User}
    (hold : users.get? userId = some user)
    (hnew : OrderedDict.get? userId (users.map fun row =>
      (row.1, { row.2 with roles := row.2.roles.filter (· ≠ roleId) })) = some user') :
    user'.password = user.password := by
  induction users with
  | nil => cases hold
  | cons row users ih =>
    rw [List.map_cons, OrderedDict.get?] at hnew
    rw [OrderedDict.get?] at hold
    by_cases hrow : row.1 = userId
    · rw [if_pos hrow] at hold hnew
      rw [← Option.some.inj hold, ← Option.some.inj hnew]
    · rw [if_neg hrow] at hold hnew
      exact ih hold hnew

/-- Deleting a role leaves an outcome. -/
theorem deleteRole_leaves (roleId : ℤ) :
    Leaves server db call (deleteRole server call.claims roleId ⟨db, db⟩) := by
  apply withRole_leaves
  apply withAdmin_leaves
  intro hadmin
  apply answerFound_leaves
  intro role _
  unfold clearResourcesForRole
  cases hrole : db.roleNamed role.name with
  | none =>
    rw [bind_of_error (by rw [bind_of_ok (current_apply _ _), hrole]; rfl)]
    exact .unchanged _
  | some cleared =>
    rw [bind_of_ok (by rw [bind_of_ok (current_apply _ _), hrole]; rfl)]
    refine .rolesEdited 204 _ (by decide) hadmin ?_
    intro userId user user' hold hnew
    have hdeleted : (ServerDb.deleteRole roleId (db.editRole cleared fun role =>
        { role with resources := [] })).users.get? userId = some user' := hnew
    unfold ServerDb.deleteRole at hdeleted
    rw [users_editRole] at hdeleted
    exact password_deleteRole hold hdeleted

/-- **Every request ends in an outcome.** -/
theorem serve_outcome (server : Server) (db : ServerDb) (call : UserCall) :
    Outcome server db call (serve server db call) := by
  unfold serve
  apply Leaves.answer
  cases hrequest : call.request with
  | createUser body => exact createUser_leaves hrequest
  | updateUser body => exact updateUser_leaves (.inl hrequest)
  | patchUser body => exact updateUser_leaves (.inr hrequest)
  | deleteUser userId => exact deleteUser_leaves userId
  | createRole body => exact createRole_leaves body
  | updateRole body => exact updateRole_leaves body
  | patchRole body => exact updateRole_leaves body
  | deleteRole roleId => exact deleteRole_leaves roleId

end Endpoints

/-! ## Privileges over runs -/

section Runs

variable {server : Server} {db : ServerDb} {call : UserCall}

/-- Adding a user leaves those there are. -/
theorem get?_addUser_of_some {user : User} {userId : ℤ} {old : User}
    (h : db.users.get? userId = some old) :
    (ServerDb.addUser user db).users.get? userId = some old := by
  have hne : userId ≠ nextId db.users := by
    rintro rfl
    have hfresh := nextId_not_mem db.users
    rw [OrderedDict.mem_keys_iff, h] at hfresh
    exact hfresh rfl
  exact (OrderedDict.get?_set_of_ne hne user db.users).trans h

/-- A new user without roles has none, and the others keep theirs. -/
theorem hasRole_addUser {user : User} (hroles : user.roles = []) {userId roleId : ℤ}
    (h : HasRole (ServerDb.addUser user db) userId roleId) : HasRole db userId roleId := by
  obtain ⟨row, hrow, hmem⟩ := h
  have hrow' : (db.users.set (nextId db.users) user).get? userId = some row := hrow
  rw [OrderedDict.get?_set] at hrow'
  by_cases hid : userId = nextId db.users
  · rw [if_pos hid] at hrow'
    obtain rfl := Option.some.inj hrow'
    rw [hroles] at hmem
    cases hmem
  · rw [if_neg hid] at hrow'
    exact ⟨row, hrow', hmem⟩

/-- A request that changes nothing. -/
theorem harmless_refl (status : ℕ) : Harmless server db call status db where
  roles := fun _ _ _ h => h
  permissions := fun _ _ _ _ h => h
  others := by
    intro _ userId _ user user' hold hnew
    rw [Option.some.inj (hold.symm.trans hnew)]
    exact ⟨rfl, rfl, rfl⟩
  password := by
    intro userId user user' hold hnew hne
    exact absurd (congrArg User.password (Option.some.inj (hnew.symm.trans hold))) hne
  error := fun _ => rfl

/-- Adding a user is harmless if only an admin gives it roles. -/
theorem harmless_addUser {user : User} (hroles : 1 ∉ call.claims.roles → user.roles = []) :
    Harmless server db call 201 (ServerDb.addUser user db) where
  roles := fun hadmin _ _ h => hasRole_addUser (hroles hadmin) h
  permissions := fun _ _ _ _ h => h
  others := by
    intro _ userId _ old new hold hnew
    rw [Option.some.inj ((get?_addUser_of_some hold).symm.trans hnew)]
    exact ⟨rfl, rfl, rfl⟩
  password := by
    intro userId old new hold hnew hne
    exact absurd
      (congrArg User.password (Option.some.inj (hnew.symm.trans (get?_addUser_of_some hold)))) hne
  error := fun h => absurd h (by decide)

/-- **Every outcome other than a user left behind is harmless.** -/
theorem harmless_of_outcome {result : ℕ × ServerDb} (h : Outcome server db call result)
    (hok : RolesBindable server db call) : Harmless server db call result.1 result.2 := by
  cases h with
  | unchanged status => exact harmless_refl status
  | userAdded user hroles => exact harmless_addUser hroles
  | userLeft user hroles hnot => exact absurd hok hnot
  | userEdited userId user user' hold hself hroles hpassword =>
    have hget : ∀ id, (ServerDb.setUser userId user' db).users.get? id =
        if id = userId then some user' else db.users.get? id := fun id =>
      OrderedDict.get?_set userId id user' db.users
    refine ⟨?_, fun _ _ _ _ h => h, ?_, ?_,
      fun h => absurd h (show ¬ 200 ≥ 400 by decide)⟩
    · rintro hadmin id roleId ⟨row, hrow, hmem⟩
      dsimp only at hrow
      rw [hget] at hrow
      by_cases hid : id = userId
      · rw [if_pos hid] at hrow
        obtain rfl := Option.some.inj hrow
        rw [hroles hadmin] at hmem
        exact ⟨user, hid ▸ hold, hmem⟩
      · rw [if_neg hid] at hrow
        exact ⟨row, hrow, hmem⟩
    · intro hadmin id hother old new hold' hnew
      dsimp only at hnew
      have hid : id ≠ userId := by
        rintro rfl
        exact hself.elim hother hadmin
      rw [hget, if_neg hid] at hnew
      rw [Option.some.inj (hold'.symm.trans hnew)]
      exact ⟨rfl, rfl, rfl⟩
    · intro id old new hold' hnew hne
      dsimp only at hnew
      rw [hget] at hnew
      by_cases hid : id = userId
      · subst hid
        rw [if_pos rfl] at hnew
        obtain rfl := Option.some.inj hnew
        obtain rfl := Option.some.inj (hold.symm.trans hold')
        exact hpassword hne
      · rw [if_neg hid] at hnew
        exact absurd (congrArg User.password (Option.some.inj (hnew.symm.trans hold'))) hne
  | userDeleted userId =>
    have hget : ∀ id row, (db.users.pop userId).get? id = some row →
        db.users.get? id = some row := by
      intro id row hrow
      rw [OrderedDict.get?_pop] at hrow
      by_cases hid : id = userId
      · rw [if_pos hid] at hrow
        cases hrow
      · rwa [if_neg hid] at hrow
    refine ⟨?_, fun _ _ _ _ h => h, ?_, ?_,
      fun h => absurd h (show ¬ 204 ≥ 400 by decide)⟩
    · rintro _ id roleId ⟨row, hrow, hmem⟩
      exact ⟨row, hget id row hrow, hmem⟩
    · intro _ id _ old new hold hnew
      rw [Option.some.inj (hold.symm.trans (hget id new hnew))]
      exact ⟨rfl, rfl, rfl⟩
    · intro id old new hold hnew hne
      exact absurd (congrArg User.password (Option.some.inj ((hget id new hnew).symm.trans hold))) hne
  | rolesEdited status db' hstatus hadmin husers =>
    refine ⟨fun h => absurd hadmin h, fun h => absurd hadmin h, fun h => absurd hadmin h, ?_, ?_⟩
    · intro id old new hold hnew hne
      exact absurd (husers id old new hold hnew) hne
    · intro herror
      exact absurd hstatus (Nat.not_lt.mpr herror)

/-- An administrator's update of the roles raises when the driver does not take the ids. -/
theorem roleUpdateUserFields_raises {data : UserData} {roles : List ℤ}
    (hadmin : 1 ∈ call.claims.roles) (hroles : data.roles = some roles) (hne : roles ≠ [])
    (hbind : ¬ server.bindable roles.dedup = true) (userId : ℤ) (s : Session) :
    roleUpdateUserFields server call.claims data userId s = .error .overflowError s := by
  have hnonempty : ¬ roles.dedup.isEmpty = true := by
    obtain ⟨role, hrole⟩ := List.exists_mem_of_ne_nil roles hne
    rw [List.isEmpty_iff]
    exact List.ne_nil_of_mem (List.mem_dedup.mpr hrole)
  have hset : setRoles server userId roles s = .error .overflowError s := by
    unfold setRoles
    rw [if_neg hnonempty, bind_of_error (bindIds_of_not_bindable hbind s)]
  unfold roleUpdateUserFields
  rw [if_pos ((adminRequired_iff _).mpr hadmin), hroles]
  exact bind_of_error hset

/-- A creation of a user whose roles cannot be looked up is answered with an error and leaves the
user behind. -/
theorem serve_of_not_bindable (h : ¬ RolesBindable server db call) :
    ∃ user, serve server db call = (500, ServerDb.addUser user db) := by
  unfold RolesBindable at h
  push Not at h
  obtain ⟨body, roles, hrequest, hroles, hne, hadmin, hpermission, hfree, hhash, hbind⟩ := h
  obtain ⟨hash, hhash⟩ := Option.ne_none_iff_exists'.mp hhash
  have hraise : ∀ s, discard (roleUpdateUserFields server call.claims body.data (nextId db.users))
      s = .error .overflowError s := fun s =>
    bind_of_error (roleUpdateUserFields_raises hadmin hroles hne hbind _ s)
  have hcreate : createUser server call.salt call.claims body ⟨db, db⟩ =
      .error .overflowError ⟨ServerDb.addUser (newUser body.username hash) db,
        ServerDb.addUser (newUser body.username hash) db⟩ := by
    unfold createUser withPermission
    rw [bind_of_ok (current_apply _ _), if_pos hpermission, bind_of_ok (current_apply _ _), hfree]
    dsimp only
    rw [bind_of_ok (addUser_of_free hfree hhash)]
    dsimp only
    rw [if_pos (by rw [hroles]; rfl)]
    exact bind_of_error (hraise _)
  unfold serve
  rw [hrequest]
  exact ⟨_, congrArg answer hcreate⟩

/-- A request that fails after its user was committed is not harmless. -/
theorem not_harmless_of_not_bindable (h : ¬ RolesBindable server db call) :
    ¬ Harmless server db call (serve server db call).1 (serve server db call).2 := by
  intro hharmless
  obtain ⟨user, hserve⟩ := serve_of_not_bindable h
  rw [hserve] at hharmless
  have hsame : ServerDb.addUser user db = db := hharmless.error (show 500 ≥ 400 by decide)
  have hmem : nextId db.users ∈ (ServerDb.addUser user db).users.keys :=
    (OrderedDict.mem_keys_set _ _ _ _).mpr (.inl rfl)
  rw [hsame] at hmem
  exact nextId_not_mem db.users hmem

/-- **A request is harmless exactly if** it does not leave a user behind. -/
theorem harmless_iff (server : Server) (db : ServerDb) (call : UserCall) :
    Harmless server db call (serve server db call).1 (serve server db call).2 ↔
      RolesBindable server db call := by
  constructor
  · intro hharmless
    by_contra hnot
    exact not_harmless_of_not_bindable hnot hharmless
  · exact harmless_of_outcome (serve_outcome server db call)

/-- **The requests of a run are harmless exactly if** none of them leaves a user behind. -/
theorem requests_harmless_iff (server : Server) (db : ServerDb) (calls : List UserCall)
    (db' : ServerDb) :
    Run (Guarded (ServerStep server) fun db call =>
        Harmless server db call (serve server db call).1 (serve server db call).2) db calls db' ↔
      Run (Guarded (ServerStep server) (RolesBindable server)) db calls db' := by
  constructor
  · exact Run.mono fun db call _ h => ⟨(harmless_iff server db call).mp h.1, h.2⟩
  · exact Run.mono fun db call _ h => ⟨(harmless_iff server db call).mpr h.1, h.2⟩

/-- With a driver that takes all ids, every run is harmless. -/
theorem requests_harmless_of_bindable {calls : List UserCall} {db' : ServerDb}
    (hbind : ∀ ids, server.bindable ids = true) (h : Run (ServerStep server) db calls db') :
    Run (Guarded (ServerStep server) fun db call =>
      Harmless server db call (serve server db call).1 (serve server db call).2) db calls db' := by
  refine Guarded.of_forall h ?_
  intro call _ db
  exact (harmless_iff server db call).mpr fun _ _ _ _ _ _ _ _ _ => hbind _

end Runs

/-- SQLite's integers have 64 bits. -/
def sqlite : Server where
  bindable ids := ids.all fun id => -9223372036854775808 ≤ id && id ≤ 9223372036854775807
  hash salt password := some (password ++ toString salt)
  verify attempt hash := some ((hash.toList.take attempt.length) = attempt.toList)

/-- The administrator's role, and no user. -/
def administratorOnly : ServerDb where
  users := []
  roles := [(1, Role.new "admin" "" [⟨"users", ["create", "read", "update", "delete"]⟩])]

/-- The creation of a user with a role id of more than 64 bits. -/
def largeRoleId : UserCall where
  salt := 0
  claims := { identity := some 1, roles := [1] }
  request := .createUser
    { username := "analyst", password := "secret", roles := some [9223372036854775808], active := none }

/-- The request is answered with an error and leaves the user behind. -/
theorem large_role_id_leaves_user :
    ¬ Harmless sqlite administratorOnly largeRoleId
      (serve sqlite administratorOnly largeRoleId).1
      (serve sqlite administratorOnly largeRoleId).2 := by
  intro h
  have hsame := h.error (by decide)
  revert hsame
  decide

end Walkoff.Analysis
