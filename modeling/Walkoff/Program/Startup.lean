import Walkoff.Program.Users

/-!
# The first request

`create_user` of the root page runs before the first request after a start of the server: it sets
up the two default roles and the user `admin`. Each of its parts commits.
-/

set_option autoImplicit false

namespace Walkoff.Program

open Walkoff.Library
open Walkoff.Library.OrderedDict (nextId)

/-- `default_resource_permissions_admin`. -/
def defaultResourcePermissionsAdmin : List ResourcePerms :=
  [{ name := "app_apis", permissions := ["read"] },
   { name := "configuration", permissions := ["read", "update"] },
   { name := "devices", permissions := ["create", "read", "update", "delete"] },
   { name := "messages", permissions := ["read", "update", "delete"] },
   { name := "metrics", permissions := ["read"] },
   { name := "playbooks", permissions := ["create", "read", "update", "delete", "execute"] },
   { name := "roles", permissions := ["create", "read", "update", "delete"] },
   { name := "scheduler", permissions := ["create", "read", "update", "delete", "execute"] },
   { name := "users", permissions := ["create", "read", "update", "delete"] }]

/-- `default_resource_permissions_guest`. -/
def defaultResourcePermissionsGuest : List ResourcePerms :=
  [{ name := "app_apis", permissions := ["read"] },
   { name := "configuration", permissions := ["read"] },
   { name := "devices", permissions := ["read"] },
   { name := "messages", permissions := ["read", "update", "delete"] },
   { name := "metrics", permissions := ["read"] },
   { name := "playbooks", permissions := ["read"] },
   { name := "roles", permissions := ["read"] },
   { name := "scheduler", permissions := ["read"] },
   { name := "users", permissions := ["read"] }]

/-- `initialize_default_resources_admin`. The role is looked up by its id, so its name may be that
of another role, which the constraint of the column refuses. -/
def initializeDefaultResourcesAdmin (db : ServerDb) : Option ServerDb :=
  match db.roles.get? 1 with
  | some _ => some (db.editRole 1 (Role.setResources defaultResourcePermissionsAdmin))
  | none =>
    if (db.roleNamed "admin").isSome then none
    else some { db with
      roles := db.roles.set (nextId db.roles) (Role.new "admin" "" defaultResourcePermissionsAdmin) }

/-- `initialize_default_resources_guest`. -/
def initializeDefaultResourcesGuest (db : ServerDb) : ServerDb :=
  match db.roleNamed "guest" with
  | some roleId => db.editRole roleId (Role.setResources defaultResourcePermissionsGuest)
  | none => { db with
      roles := db.roles.set (nextId db.roles) (Role.new "guest" "" defaultResourcePermissionsGuest) }

/-- The part of `create_user` about the user `admin`: the hash may raise, and the role of an
administrator may be missing, so that `None` is added to the roles, which the session refuses. -/
def setupAdmin (server : Server) (salt : ℕ) (db : ServerDb) : Option ServerDb :=
  match db.userNamed "admin" with
  | none => (server.hash salt "admin").map fun hash => { db with
      users := db.users.set (nextId db.users)
        { username := "admin", password := hash, active := true
          roles := db.roles.keys.filter (· = 1) } }
  | some userId =>
    if (db.roles.get? 1).isSome then
      some (db.editUser userId fun user =>
        { user with roles := if 1 ∈ user.roles then user.roles else user.roles ++ [1] })
    else none

/-- What `create_user` leaves in the tables, whichever way it ends. -/
def createAdminUser (server : Server) (salt : ℕ) (db : ServerDb) : ServerDb :=
  match initializeDefaultResourcesAdmin db with
  | none => db
  | some db =>
    let db := initializeDefaultResourcesGuest db
    (setupAdmin server salt db).getD db

/-- What changes the tables of users and roles: a start of the server, and a request. -/
inductive TableOp where
  | start (salt : ℕ)
  | request (call : UserCall)

/-- One operation after the other, on the committed tables. -/
inductive TableStep (server : Server) : ServerDb → TableOp → ServerDb → Prop where
  | start {db : ServerDb} (salt : ℕ) :
    TableStep server db (.start salt) (createAdminUser server salt db)
  | request {db db' : ServerDb} (call : UserCall) (h : ServerStep server db call db') :
    TableStep server db (.request call) db'

end Walkoff.Program
