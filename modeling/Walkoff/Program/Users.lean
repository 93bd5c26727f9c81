import Walkoff.Library.Effect
import Walkoff.Program.Roles

/-!
# The user and role endpoints

`walkoff.server.endpoints.users`, `walkoff.server.endpoints.roles` and the parts of
`walkoff.serverdb` they call. A request works on a session over the committed tables; a commit
may come in the middle of a request, and what is not committed is rolled back at its end.
Bodies are those that the description of the API admits.
-/

set_option autoImplicit false

namespace Walkoff.Program

open Walkoff.Library
open Walkoff.Library.OrderedDict (nextId)

/-- A row of the table `user`, with the ids of its roles. -/
structure User where
  username : String
  password : String
  active : Bool
  roles : List ℤ
  deriving DecidableEq, Repr

/-- The tables of users and roles. -/
structure ServerDb where
  users : OrderedDict ℤ User
  roles : RoleTable
  deriving DecidableEq, Repr

namespace ServerDb

/-- Change the row of a user. -/
def editUser (userId : ℤ) (f : User → User) (db : ServerDb) : ServerDb :=
  match db.users.get? userId with
  | none => db
  | some user => { db with users := db.users.set userId (f user) }

/-- Change the row of a role. -/
def editRole (roleId : ℤ) (f : Role → Role) (db : ServerDb) : ServerDb :=
  match db.roles.get? roleId with
  | none => db
  | some role => { db with roles := db.roles.set roleId (f role) }

/-- `User.query.filter_by(username=username).first()`, by its id. -/
def userNamed (username : String) (db : ServerDb) : Option ℤ :=
  (db.users.find? (·.2.username = username)).map Prod.fst

/-- `Role.query.filter_by(name=name).first()`, by its id. -/
def roleNamed (name : String) (db : ServerDb) : Option ℤ :=
  (db.roles.find? (·.2.name = name)).map Prod.fst

/-- The deletion of a role, with its rows of the association of users and roles. -/
def deleteRole (roleId : ℤ) (db : ServerDb) : ServerDb where
  users := db.users.map fun row =>
    (row.1, { row.2 with roles := row.2.roles.filter (· ≠ roleId) })
  roles := db.roles.pop roleId

end ServerDb

/-- A session: the tables it has committed and the tables it sees. -/
structure Session where
  committed : ServerDb
  current : ServerDb

/-- What a request may raise. -/
inductive ServerError where
  | keyError (key : String)
  | attributeError
  | overflowError
  | passwordError
  deriving DecidableEq, Repr

/-- A request at work. -/
abbrev Serving := EStateM ServerError Session

/-- `db.session.commit()`. -/
def commit : Serving Unit :=
  modify fun session => { session with committed := session.current }

/-- The tables as the session sees them. -/
def current : Serving ServerDb := do
  return (← get).current

/-- A change in the session. -/
def edit (f : ServerDb → ServerDb) : Serving Unit :=
  modify fun session => { session with current := f session.current }

/-- What is done with a field of a body if the body has it. -/
def ifGiven {α : Type} (field : Option α) (f : α → Serving Unit) : Serving Unit :=
  match field with
  | none => pure ()
  | some value => f value

/-- What the endpoints use of the database driver and of the password hashes: which ids can be
the parameters of one query, and the two functions of `pbkdf2_sha512`, each of which may raise. -/
structure Server where
  bindable : List ℤ → Bool
  hash : ℕ → String → Option String
  verify : String → String → Option Bool

/-- The identity and the role ids in the claims of a token. -/
structure Claims where
  identity : Option ℤ
  roles : List ℤ

/-- What a request is answered with. -/
inductive Response where
  | success (status : ℕ)
  | unauthorizedView
  | problem (status : ℕ) (title detail : String)
  deriving DecidableEq, Repr

/-- The status code of an answer. -/
def Response.status : Response → ℕ
  | .success status => status
  | .unauthorizedView => 403
  | .problem status _ _ => status

/-- `Problem.from_crud_resource`. -/
def fromCrudResource (status : ℕ) (resource operation detail : String) : Response :=
  .problem status ("Could not " ++ operation ++ " " ++ resource ++ ".") detail

/-- The optional fields of a body about a user. -/
structure UserData where
  username : Option String
  oldPassword : Option String
  password : Option String
  roles : Option (List ℤ)
  active : Option Bool

/-- A body of the schema `AddUser`. -/
structure AddUser where
  username : String
  password : String
  roles : Option (List ℤ)
  active : Option Bool

/-- The body as the fields that are looked up in it. -/
def AddUser.data (body : AddUser) : UserData where
  username := some body.username
  oldPassword := none
  password := some body.password
  roles := body.roles
  active := body.active

/-- A body of the schema `EditUser`. -/
structure EditUser where
  id : ℤ
  data : UserData

/-- A resource in a body; `AddResource` requires its name, `Resource` nothing. -/
structure ResourceBody where
  name : Option String
  permissions : Option (List String)

/-- A body of the schema `AddRole`. -/
structure AddRole where
  name : String
  description : Option String
  resources : Option (List ResourceBody)

/-- A body of the schema `Role`. -/
structure EditRole where
  id : ℤ
  name : Option String
  description : Option String
  resources : Option (List ResourceBody)

/-- `resource['name']` and `resource['permissions']` of the resources: the names are read first. -/
def readResources (resources : List ResourceBody) : Except ServerError (List ResourcePerms) :=
  if resources.any (·.name.isNone) then .error (.keyError "name")
  else if resources.any (·.permissions.isNone) then .error (.keyError "permissions")
  else .ok (resources.map fun resource =>
    { name := resource.name.getD "", permissions := resource.permissions.getD [] })

section

variable (server : Server) (salt : ℕ) (claims : Claims)

/-- The ids a query is given. -/
def bindIds (ids : List ℤ) : Serving Unit :=
  if server.bindable ids then pure () else throw .overflowError

/-- `pbkdf2_sha512.hash`. -/
def hashPassword (password : String) : Serving String :=
  match server.hash salt password with
  | none => throw .passwordError
  | some hash => return hash

/-- `User.verify_password`. -/
def verifyPassword (attempt : String) (user : User) : Serving Bool :=
  match server.verify attempt user.password with
  | none => throw .passwordError
  | some verified => return verified

/-- `User.set_roles`: roles that do not exist are left out. -/
def setRoles (userId : ℤ) (newRoles : List ℤ) : Serving Unit := do
  let newRoleIds := newRoles.dedup
  unless newRoleIds.isEmpty do
    bindIds server newRoleIds
  edit fun db => db.editUser userId fun user =>
    { user with roles := db.roles.keys.filter (· ∈ newRoleIds) }

/-- `add_user`, which commits. -/
def addUser (username password : String) : Serving (Option ℤ) := do
  let db ← current
  match db.userNamed username with
  | some _ => return none
  | none =>
    let hash ← hashPassword server salt password
    edit fun db => { db with
      users := db.users.set (nextId db.users)
        { username, password := hash, active := true, roles := [] } }
    commit
    return some (nextId db.users)

/-- The part of `update_user_fields` about the password: whether it was the wrong one. -/
def updatePassword (data : UserData) (userId : ℤ) (user : User) : Serving Bool :=
  match data.oldPassword, data.password with
  | some oldPassword, some password => do
    if ← verifyPassword server oldPassword user then
      let hash ← hashPassword server salt password
      edit fun db => db.editUser userId fun user => { user with password := hash }
      return false
    else
      return true
  | _, _ => return false

/-- Whether `update_user_fields` finds the new name with another user. -/
def usernameTaken (data : UserData) (userId : ℤ) (db : ServerDb) : Bool :=
  match data.username with
  | none => false
  | some username =>
    username ≠ "" && (db.userNamed username).any (· ≠ userId)

/-- `update_user_fields` for the user whose row was read. -/
def updateUserFields (data : UserData) (userId : ℤ) (user : User) : Serving Response := do
  if usernameTaken data userId (← current) then
    return .problem 400 "Cannot update user."
      ("Username " ++ data.username.getD "" ++ " is already taken.")
  else
    edit fun db => db.editUser userId fun user =>
      { user with username := (data.username.filter (· ≠ "")).getD user.username }
    if ← updatePassword server salt data userId user then
      edit fun db => db.editUser userId fun row => { row with username := user.username }
      return fromCrudResource 401 "user" "update" "Current password is incorrect."
    else
      commit
      return .success 200

/-- `role_update_user_fields`, without its last step, which the caller who sets `update` takes:
`false` is the refusal of `admin_required`. -/
def roleUpdateUserFields (data : UserData) (userId : ℤ) : Serving Bool := do
  if adminRequired claims.roles then
    ifGiven data.roles (setRoles server userId)
    ifGiven data.active fun active =>
      edit fun db => db.editUser userId fun user => { user with active }
    return true
  else
    return false

/-- `permissions_accepted_for_resources` before a view. -/
def withPermission (resource permission : String) (view : Serving Response) :
    Serving Response := do
  let db ← current
  if permissionsAcceptedForResources db.roles [⟨resource, [permission]⟩] claims.roles then view
  else return .unauthorizedView

/-- `admin_required` before a view. -/
def withAdmin (view : Serving Response) : Serving Response :=
  if adminRequired claims.roles then view else return .unauthorizedView

/-- `create_user`. -/
def createUser (data : AddUser) : Serving Response :=
  withPermission claims "users" "create" do
    let db ← current
    match db.userNamed data.username with
    | some _ =>
      return fromCrudResource 400 "user" "create"
        ("User with username " ++ data.username ++ " already exists")
    | none =>
      match ← addUser server salt data.username data.password with
      | none => throw .attributeError
      | some userId =>
        if data.roles.isSome || data.active.isSome then
          discard (roleUpdateUserFields server claims data.data userId)
        commit
        return .success 201

/-- The function that `with_resource_factory` makes of a view: it calls the view with what was
found, or answers that there is no such row. -/
def answerFound {α : Type} (resource title operation : String) (id : ℤ)
    (view : α → Serving Response) : Option α → Serving Response
  | none =>
    return fromCrudResource 404 resource operation
      (title ++ " " ++ toString id ++ " does not exist.")
  | some row => view row

/-- `with_user`: the query is made when the view is decorated, and what the decorators above it
check comes before the answer. -/
def withUser (operation : String) (userId : ℤ) (guard : Serving Response → Serving Response)
    (view : User → Serving Response) : Serving Response := do
  bindIds server [userId]
  let db ← current
  guard (answerFound "user" "User" operation userId view (db.users.get? userId))

/-- `update_user`. -/
def updateUser (body : EditUser) : Serving Response :=
  withUser server "update" body.id id fun user => do
    if claims.identity = some body.id then
      updateUserFields server salt body.data body.id user
    else if ← roleUpdateUserFields server claims body.data body.id then
      updateUserFields server salt body.data body.id user
    else
      return fromCrudResource 403 "user" "update"
        ("Current user does not have permission to update user " ++ toString body.id ++ ".")

/-- `delete_user`. -/
def deleteUser (userId : ℤ) : Serving Response :=
  withUser server "delete" userId (withPermission claims "users" "delete") fun _ => do
    if claims.identity = some userId then
      return fromCrudResource 403 "user" "delete" "Current user cannot delete self."
    else
      edit fun db => { db with users := db.users.pop userId }
      commit
      return .success 204

/-- `create_role`. The role is not yet in the session when `set_resources` commits. -/
def createRole (body : AddRole) : Serving Response :=
  withAdmin claims do
    let db ← current
    match db.roleNamed body.name with
    | some _ =>
      return fromCrudResource 400 "role" "create"
        ("Role with name " ++ body.name ++ " already exists")
    | none =>
      let resources ← lift (readResources (body.resources.getD []))
      let role := Role.new body.name (body.description.getD "") resources
      edit fun db => { db with roles := db.roles.set (nextId db.roles) role }
      commit
      return .success 201

/-- `with_role`, in the same way. -/
def withRole (operation : String) (roleId : ℤ) (guard : Serving Response → Serving Response)
    (view : Role → Serving Response) : Serving Response := do
  bindIds server [roleId]
  let db ← current
  guard (answerFound "role" "Role" operation roleId view (db.roles.get? roleId))

/-- The name that `update_role` gives a role: that of another role is left out. -/
def newRoleName (body : EditRole) (db : ServerDb) (name : String) : String :=
  match body.name with
  | none => name
  | some newName => if (db.roleNamed newName).all (· = body.id) then newName else name

/-- `update_role`. -/
def updateRole (body : EditRole) : Serving Response :=
  withRole server "update" body.id (withAdmin claims) fun _ => do
    edit fun db => db.editRole body.id fun role =>
      { role with
        name := newRoleName body db role.name
        description := body.description.getD role.description }
    ifGiven body.resources fun resources => do
      let resources ← lift (readResources resources)
      edit fun db => db.editRole body.id (Role.setResources resources)
      commit
    commit
    return .success 200

/-- `clear_resources_for_role`, which commits. -/
def clearResourcesForRole (roleName : String) : Serving Unit := do
  match (← current).roleNamed roleName with
  | none => throw .attributeError
  | some roleId =>
    edit fun db => db.editRole roleId fun role => { role with resources := [] }
    commit

/-- `delete_role`. -/
def deleteRole (roleId : ℤ) : Serving Response :=
  withRole server "delete" roleId (withAdmin claims) fun role => do
    clearResourcesForRole role.name
    edit (ServerDb.deleteRole roleId)
    commit
    return .success 204

/-- The requests; `patch_user` and `patch_role` are `update_user` and `update_role`. -/
inductive UserRequest where
  | createUser (body : AddUser)
  | updateUser (body : EditUser)
  | patchUser (body : EditUser)
  | deleteUser (userId : ℤ)
  | createRole (body : AddRole)
  | updateRole (body : EditRole)
  | patchRole (body : EditRole)
  | deleteRole (roleId : ℤ)

/-- The endpoint of a request. -/
def handle : UserRequest → Serving Response
  | .createUser body => createUser server salt claims body
  | .updateUser body => updateUser server salt claims body
  | .patchUser body => updateUser server salt claims body
  | .deleteUser userId => deleteUser server claims userId
  | .createRole body => createRole claims body
  | .updateRole body => updateRole server claims body
  | .patchRole body => updateRole server claims body
  | .deleteRole roleId => deleteRole server claims roleId

end

/-- A request as it is made: with the salt of its hash and the claims of its token. -/
structure UserCall where
  salt : ℕ
  claims : Claims
  request : UserRequest

/-- The status of the answer, which is 500 when the endpoint raises, and the committed tables. -/
def answer : EStateM.Result ServerError Session Response → ℕ × ServerDb
  | .ok response session => (response.status, session.committed)
  | .error _ session => (500, session.committed)

/-- A request in a session of its own. -/
def serve (server : Server) (db : ServerDb) (call : UserCall) : ℕ × ServerDb :=
  answer (handle server call.salt call.claims call.request { committed := db, current := db })

/-- One request after the other, on the committed tables. -/
def ServerStep (server : Server) (db : ServerDb) (call : UserCall) (db' : ServerDb) : Prop :=
  (serve server db call).2 = db'

end Walkoff.Program
