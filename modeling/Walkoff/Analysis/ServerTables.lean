import Walkoff.Analysis.Privileges
import Walkoff.Library.UniqueColumn
import Walkoff.Program.Startup

/-!
# The tables of users and roles

The checks of the endpoints are enough for the constraints of the tables: no two users and no two
roles have one name, and a user has roles that exist, each of them once. A request works on a
session that has these properties all the time, whether it commits in the middle, raises or is
rolled back.
-/

set_option autoImplicit false

namespace Walkoff.Analysis

open Walkoff.Program
open Walkoff.Library
open Walkoff.Library.OrderedDict (Unique FreeFor nextId nextId_not_mem)

/-- A user has existing roles, each of them once. -/
structure SoundUser (roles : RoleTable) (user : User) : Prop where
  nodup : user.roles.Nodup
  exist : ∀ roleId ∈ user.roles, roleId ∈ roles.keys

/-- The constraints of the two tables and of their association. -/
structure Sound (db : ServerDb) : Prop where
  userIds : db.users.keys.Nodup
  roleIds : db.roles.keys.Nodup
  usernames : Unique User.username db.users
  roleNames : Unique Role.name db.roles
  userRoles : ∀ userId user, db.users.get? userId = some user → SoundUser db.roles user

/-- Empty tables are sound. -/
theorem sound_empty : Sound { users := [], roles := [] } where
  userIds := List.nodup_nil
  roleIds := List.nodup_nil
  usernames := OrderedDict.unique_nil
  roleNames := OrderedDict.unique_nil
  userRoles := by
    intro userId user h
    cases h

/-! ## Changes of the tables -/

section

variable {db : ServerDb}

/-- A row is put into the table of the users. -/
theorem Sound.setUser (h : Sound db) {userId : ℤ} {user : User}
    (hname : FreeFor User.username userId user.username db.users)
    (huser : SoundUser db.roles user) :
    Sound { db with users := db.users.set userId user } where
  userIds := OrderedDict.nodup_keys_set h.userIds user
  roleIds := h.roleIds
  usernames := h.usernames.set hname
  roleNames := h.roleNames
  userRoles := by
    intro id row hrow
    rw [OrderedDict.get?_set] at hrow
    split_ifs at hrow with hid
    · obtain rfl := Option.some.inj hrow
      exact huser
    · exact h.userRoles id row hrow

/-- An edit that keeps a user sound and its name free keeps the tables sound. -/
theorem Sound.editUser (h : Sound db) {userId : ℤ} {f : User → User}
    (hf : ∀ user, db.users.get? userId = some user →
      FreeFor User.username userId (f user).username db.users ∧ SoundUser db.roles (f user)) :
    Sound (db.editUser userId f) := by
  unfold ServerDb.editUser
  cases huser : db.users.get? userId with
  | none => exact h
  | some user => exact h.setUser (hf user huser).1 (hf user huser).2

/-- The change of a user that keeps the name. -/
theorem Sound.editUser_of_name (h : Sound db) {userId : ℤ} {f : User → User}
    (hname : ∀ user, (f user).username = user.username)
    (hf : ∀ user, SoundUser db.roles user → SoundUser db.roles (f user)) :
    Sound (db.editUser userId f) := by
  refine h.editUser fun user huser => ⟨?_, hf user (h.userRoles userId user huser)⟩
  rw [hname]
  exact h.usernames.freeFor huser

/-- Deleting a user keeps the tables sound. -/
theorem Sound.popUser (h : Sound db) (userId : ℤ) :
    Sound { db with users := db.users.pop userId } where
  userIds := OrderedDict.nodup_keys_pop h.userIds
  roleIds := h.roleIds
  usernames := h.usernames.pop
  roleNames := h.roleNames
  userRoles := by
    intro id row hrow
    rw [OrderedDict.get?_pop] at hrow
    split_ifs at hrow
    exact h.userRoles id row hrow

/-- A row is put into the table of the roles. -/
theorem Sound.setRole (h : Sound db) {roleId : ℤ} {role : Role}
    (hname : FreeFor Role.name roleId role.name db.roles) :
    Sound { db with roles := db.roles.set roleId role } where
  userIds := h.userIds
  roleIds := OrderedDict.nodup_keys_set h.roleIds role
  usernames := h.usernames
  roleNames := h.roleNames.set hname
  userRoles := by
    intro id user huser
    have hsound := h.userRoles id user huser
    refine ⟨hsound.nodup, fun other hother => ?_⟩
    rw [OrderedDict.mem_keys_set]
    exact .inr (hsound.exist other hother)

/-- An edit that keeps the name of a role free keeps the tables sound. -/
theorem Sound.editRole (h : Sound db) {roleId : ℤ} {f : Role → Role}
    (hf : ∀ role, db.roles.get? roleId = some role →
      FreeFor Role.name roleId (f role).name db.roles) :
    Sound (db.editRole roleId f) := by
  unfold ServerDb.editRole
  cases hrole : db.roles.get? roleId with
  | none => exact h
  | some role => exact h.setRole (hf role hrole)

/-- The change of a role that keeps the name. -/
theorem Sound.editRole_of_name (h : Sound db) {roleId : ℤ} {f : Role → Role}
    (hname : ∀ role, (f role).name = role.name) : Sound (db.editRole roleId f) :=
  h.editRole fun role hrole => by
    rw [hname]
    exact h.roleNames.freeFor hrole

/-- The rows of the association go with the role. -/
theorem Sound.deleteRole (h : Sound db) (roleId : ℤ) : Sound (db.deleteRole roleId) where
  userIds := by
    unfold ServerDb.deleteRole
    dsimp only
    rw [OrderedDict.keys_mapRows fun _ (user : User) =>
      { user with roles := user.roles.filter (· ≠ roleId) }]
    exact h.userIds
  roleIds := OrderedDict.nodup_keys_pop h.roleIds
  usernames := Unique.map (f := fun user : User =>
    { user with roles := user.roles.filter (· ≠ roleId) }) h.usernames fun _ => rfl
  roleNames := h.roleNames.pop
  userRoles := by
    intro id row hrow
    have hrow : OrderedDict.get? id (db.users.map fun row =>
        (row.1, { row.2 with roles := row.2.roles.filter (· ≠ roleId) })) = some row := hrow
    rw [OrderedDict.get?_mapRows fun _ (user : User) =>
      { user with roles := user.roles.filter (· ≠ roleId) }] at hrow
    obtain ⟨user, huser, rfl⟩ := Option.map_eq_some_iff.mp hrow
    have hsound := h.userRoles id user huser
    refine ⟨hsound.nodup.filter _, fun other hother => ?_⟩
    obtain ⟨hmem, hne⟩ := List.mem_filter.mp hother
    have hkey : other ∈ db.roles.keys.filter (· ≠ roleId) :=
      List.mem_filter.mpr ⟨hsound.exist other hmem, hne⟩
    show other ∈ (db.roles.pop roleId).keys
    rwa [OrderedDict.keys_pop]

/-- The roles that a user is given are looked up in the table. -/
theorem soundUser_filter (h : Sound db) (p : ℤ → Bool) (user : User) :
    SoundUser db.roles { user with roles := db.roles.keys.filter p } where
  nodup := h.roleIds.filter p
  exist := fun _ hmem => (List.mem_filter.mp hmem).1

/-- Setting the resources leaves the name. -/
@[simp] theorem setResources_name (entries : List ResourcePerms) (role : Role) :
    (Role.setResources entries role).name = role.name := rfl

/-- A new role has its name. -/
theorem new_role_name (name description : String) (entries : List ResourcePerms) :
    (Role.new name description entries).name = name := by
  unfold Role.new
  dsimp only
  split_ifs <;> rfl

end

/-! ## Sessions -/

/-- Both what has been committed and what the session sees is sound. -/
def SoundSession (s : Session) : Prop :=
  Sound s.committed ∧ Sound s.current

/-- A computation keeps a session sound; when it raises, only what has been committed counts. -/
def KeepsSound {α : Type} (m : Serving α) (s : Session) : Prop :=
  SoundSession s → Ends (fun _ t => SoundSession t) (fun _ t => Sound t.committed) (m s)

section

variable {α β : Type} {s : Session}

/-- Returning keeps the tables sound. -/
theorem keepsSound_pure (a : α) : KeepsSound (pure a) s :=
  fun h => h

/-- The same of raising. -/
theorem keepsSound_throw (e : ServerError) : KeepsSound (throw e : Serving α) s :=
  fun h => h.1

/-- The same of one computation after another. -/
theorem KeepsSound.bind {m : Serving α} {f : α → Serving β} (hm : KeepsSound m s)
    (hf : ∀ a t, KeepsSound (f a) t) : KeepsSound (m >>= f) s :=
  fun h => (hm h).bind (fun a t ht => hf a t ht) fun _ _ ht => ht

/-- The same of a commit. -/
theorem keepsSound_commit : KeepsSound commit s :=
  fun h => ⟨h.2, h.2⟩

/-- The same of an edit that does. -/
theorem keepsSound_edit {f : ServerDb → ServerDb} (hf : Sound s.current → Sound (f s.current)) :
    KeepsSound (edit f) s :=
  fun h => ⟨h.1, hf h.2⟩

/-- What follows a change that keeps the tables sound. -/
theorem keepsSound_edit_bind {f : ServerDb → ServerDb} {g : Unit → Serving β}
    (hf : Sound s.current → Sound (f s.current))
    (hg : KeepsSound (g ()) { s with current := f s.current }) : KeepsSound (edit f >>= g) s :=
  fun h => hg ⟨h.1, hf h.2⟩

/-- Reading the tables leaves the session as it is. -/
theorem keepsSound_current {f : ServerDb → Serving β} (hf : KeepsSound (f s.current) s) :
    KeepsSound (current >>= f) s :=
  hf

/-- The same of an outcome that is passed on. -/
theorem keepsSound_lift {x : Except ServerError α} {f : α → Serving β}
    (hf : ∀ a, KeepsSound (f a) s) : KeepsSound (lift x >>= f) s := by
  cases x with
  | ok a => exact hf a
  | error e => exact fun h => h.1

/-- The same of what is done with a field that is given. -/
theorem keepsSound_ifGiven {field : Option α} {f : α → Serving Unit}
    (hf : ∀ a, KeepsSound (f a) s) : KeepsSound (ifGiven field f) s := by
  cases field with
  | none => exact fun h => h
  | some a => exact hf a

/-- The same of a computation whose value is discarded. -/
theorem keepsSound_discard {m : Serving α} (hm : KeepsSound m s) : KeepsSound (discard m) s :=
  hm.bind fun _ _ => keepsSound_pure ()

end

/-! ## The parts of an endpoint -/

section

variable {server : Server} {salt : ℕ} {claims : Claims} {s : Session}

/-- The same of binding ids. -/
theorem keepsSound_bindIds (ids : List ℤ) : KeepsSound (bindIds server ids) s := by
  unfold bindIds
  split_ifs
  · exact keepsSound_pure ()
  · exact keepsSound_throw _

/-- The same of setting the roles of a user. -/
theorem keepsSound_setRoles (userId : ℤ) (newRoles : List ℤ) :
    KeepsSound (setRoles server userId newRoles) s := by
  have hedit : ∀ t, KeepsSound (edit fun db => db.editUser userId fun user =>
      { user with roles := db.roles.keys.filter (· ∈ newRoles.dedup) }) t := fun t =>
    keepsSound_edit fun h => h.editUser_of_name (fun _ => rfl)
      fun user _ => soundUser_filter h _ user
  unfold setRoles
  dsimp only
  split_ifs
  · exact hedit s
  · exact (keepsSound_bindIds _).bind fun _ t => hedit t

/-- The same of updating the fields of a user. -/
theorem keepsSound_roleUpdateUserFields (data : UserData) (userId : ℤ) :
    KeepsSound (roleUpdateUserFields server claims data userId) s := by
  unfold roleUpdateUserFields
  split_ifs
  · refine (keepsSound_ifGiven fun roles => keepsSound_setRoles userId roles).bind fun _ t => ?_
    refine (keepsSound_ifGiven fun active => ?_).bind fun _ _ => keepsSound_pure true
    exact keepsSound_edit fun h => h.editUser_of_name (fun _ => rfl) fun _ huser => ⟨huser.1, huser.2⟩
  · exact keepsSound_pure false

/-- A name that is free for the user who is found with it. -/
theorem freeFor_username {db : ServerDb} (h : Sound db) {userId : ℤ} {username : String}
    (hfree : (db.userNamed username).all (· = userId) = true) :
    FreeFor User.username userId username db.users :=
  OrderedDict.freeFor_of_find?_all h.userIds h.usernames hfree

/-- A name that no other role has is free for a role. -/
theorem freeFor_roleName {db : ServerDb} (h : Sound db) {roleId : ℤ} {name : String}
    (hfree : (db.roleNamed name).all (· = roleId) = true) :
    FreeFor Role.name roleId name db.roles :=
  OrderedDict.freeFor_of_find?_all h.roleIds h.roleNames hfree

/-- The name that `update_user_fields` gives a user is free for the user. -/
theorem freeFor_newUsername {db : ServerDb} (h : Sound db) {data : UserData} {userId : ℤ}
    (hfree : usernameTaken data userId db = false) {row : User}
    (hrow : db.users.get? userId = some row) :
    FreeFor User.username userId ((data.username.filter (· ≠ "")).getD row.username)
      db.users := by
  cases hname : data.username with
  | none => exact h.usernames.freeFor hrow
  | some username =>
    by_cases hempty : username = ""
    · simpa [hempty, Option.filter] using h.usernames.freeFor hrow
    · have hall : (db.userNamed username).all (· = userId) = true := by
        cases hnamed : db.userNamed username with
        | none => rfl
        | some other => simpa [usernameTaken, hname, hempty, hnamed] using hfree
      simpa [hempty, Option.filter] using freeFor_username h hall

/-- `update_user_fields` for a user whose name has not changed since the row was read. -/
theorem keepsSound_updateUserFields (data : UserData) {userId : ℤ} {user row : User}
    {db committed : ServerDb} (hrow : db.users.get? userId = some row)
    (hname : user.username = row.username) :
    KeepsSound (updateUserFields server salt data userId user) ⟨committed, db⟩ := by
  rintro ⟨hcommitted, hdb⟩
  have hcommitted : Sound committed := hcommitted
  have hdb : Sound db := hdb
  have huser := hdb.userRoles userId row hrow
  -- from here on the tables differ in the name and the password of the row at most
  have hsound : ∀ username password, FreeFor User.username userId username db.users →
      Sound (ServerDb.setUser userId { row with username, password } db) :=
    fun username password hfree => hdb.setUser hfree ⟨huser.1, huser.2⟩
  have hold : FreeFor User.username userId user.username db.users :=
    hname ▸ hdb.usernames.freeFor hrow
  rw [← ServerDb.setUser_eq_self hrow]
  unfold updateUserFields
  rw [bind_of_ok (current_apply _ _)]
  by_cases htaken : usernameTaken data userId (ServerDb.setUser userId row db) = true
  · rw [if_pos htaken]
    exact ⟨hcommitted, hsound row.username row.password (hdb.usernames.freeFor hrow)⟩
  · rw [if_neg htaken, bind_of_ok (edit_apply _ _ _), ServerDb.editUser_setUser]
    rw [ServerDb.setUser_eq_self hrow, Bool.not_eq_true] at htaken
    have hfree := freeFor_newUsername hdb htaken hrow
    refine (updatePassword_ends data userId user _ db committed).bind ?_ ?_
    · rintro wrong t (⟨rfl, rfl⟩ | ⟨rfl, password, rfl, -⟩)
      · refine ⟨hcommitted, ?_⟩
        show Sound ((ServerDb.setUser userId _ db).editUser userId _)
        rw [ServerDb.editUser_setUser]
        exact hsound _ _ hold
      · exact ⟨hsound _ _ hfree, hsound _ _ hfree⟩
    · intro _ t ht
      rw [ht]
      exact hcommitted

/-- A user with no roles yet is added under a name that is free. -/
theorem keepsSound_addUser {db : ServerDb} (username password : String) :
    KeepsSound (addUser server salt username password) ⟨db, db⟩ := by
  unfold addUser
  refine keepsSound_current ?_
  cases hfree : db.userNamed username with
  | some userId => exact keepsSound_pure none
  | none =>
    unfold hashPassword
    cases server.hash salt password with
    | none => exact fun h => h.1
    | some hash =>
      have hadded : KeepsSound (do
          edit (ServerDb.addUser (newUser username hash))
          commit
          return some (nextId db.users)) ⟨db, db⟩ :=
        keepsSound_edit_bind (fun h => h.setUser (OrderedDict.freeFor_of_find?_none hfree)
          ⟨List.nodup_nil, List.forall_mem_nil _⟩)
          (keepsSound_commit.bind fun _ _ => keepsSound_pure _)
      exact hadded

/-! ## The endpoints -/

/-- A view behind a permission keeps the tables sound if the view does. -/
theorem keepsSound_withPermission {resource permission : String} {view : Serving Response}
    (hview : KeepsSound view s) :
    KeepsSound (withPermission claims resource permission view) s := by
  unfold withPermission
  refine keepsSound_current ?_
  split_ifs
  · exact hview
  · exact keepsSound_pure _

/-- The same of a view for admins. -/
theorem keepsSound_withAdmin {view : Serving Response} (hview : KeepsSound view s) :
    KeepsSound (withAdmin claims view) s := by
  unfold withAdmin
  split_ifs
  · exact hview
  · exact keepsSound_pure _

/-- The same of a view of a row. -/
theorem keepsSound_answerFound {α : Type} {resource title operation : String} {id : ℤ}
    {view : α → Serving Response} {found : Option α}
    (hview : ∀ row, found = some row → KeepsSound (view row) s) :
    KeepsSound (answerFound resource title operation id view found) s := by
  cases found with
  | none => exact keepsSound_pure _
  | some row => exact hview row rfl

/-- The same of a guarded view of a user. -/
theorem keepsSound_withUser {db : ServerDb} {operation : String} {userId : ℤ}
    {guard : Serving Response → Serving Response} {view : User → Serving Response}
    (hguarded : KeepsSound
      (guard (answerFound "user" "User" operation userId view (db.users.get? userId))) ⟨db, db⟩) :
    KeepsSound (withUser server operation userId guard view) ⟨db, db⟩ := by
  intro h
  unfold withUser
  by_cases hbind : server.bindable [userId] = true
  · rw [bind_of_ok (bindIds_of_bindable hbind _), bind_of_ok (current_apply _ _)]
    exact hguarded h
  · rw [bind_of_error (bindIds_of_not_bindable hbind _)]
    exact h.1

/-- The same of a guarded view of a role. -/
theorem keepsSound_withRole {db : ServerDb} {operation : String} {roleId : ℤ}
    {guard : Serving Response → Serving Response} {view : Role → Serving Response}
    (hguarded : KeepsSound
      (guard (answerFound "role" "Role" operation roleId view (db.roles.get? roleId))) ⟨db, db⟩) :
    KeepsSound (withRole server operation roleId guard view) ⟨db, db⟩ := by
  intro h
  unfold withRole
  by_cases hbind : server.bindable [roleId] = true
  · rw [bind_of_ok (bindIds_of_bindable hbind _), bind_of_ok (current_apply _ _)]
    exact hguarded h
  · rw [bind_of_error (bindIds_of_not_bindable hbind _)]
    exact h.1

/-- Creating a user keeps the tables sound. -/
theorem keepsSound_createUser {db : ServerDb} (body : AddUser) :
    KeepsSound (createUser server salt claims body) ⟨db, db⟩ := by
  refine keepsSound_withPermission (keepsSound_current ?_)
  cases db.userNamed body.username with
  | some _ => exact keepsSound_pure _
  | none =>
    refine (keepsSound_addUser _ _).bind fun userId t => ?_
    cases userId with
    | none => exact keepsSound_throw _
    | some userId =>
      dsimp only
      split_ifs
      · exact (keepsSound_discard (keepsSound_roleUpdateUserFields _ _)).bind fun _ _ =>
          keepsSound_commit.bind fun _ _ => keepsSound_pure _
      · exact keepsSound_commit.bind fun _ _ => keepsSound_pure _

/-- The same of updating a user. -/
theorem keepsSound_updateUser {db : ServerDb} (body : EditUser) :
    KeepsSound (updateUser server salt claims body) ⟨db, db⟩ := by
  refine keepsSound_withUser (keepsSound_answerFound fun user huser => ?_)
  split_ifs
  · exact keepsSound_updateUserFields body.data huser rfl
  · intro h
    have hends := @roleUpdateUserFields_ends server claims body.data body.id user db db
    rw [ServerDb.setUser_eq_self huser] at hends
    refine (hends.and (keepsSound_roleUpdateUserFields body.data body.id h)).bind ?_
      fun _ _ ht => ht.2
    rintro allowed t ⟨⟨rfl, -, -⟩ | ⟨rfl, -, roles, active, rfl⟩, hsound⟩
    · exact hsound
    · exact keepsSound_updateUserFields body.data (OrderedDict.get?_set_self body.id _ db.users)
        rfl hsound

/-- The same of deleting a user. -/
theorem keepsSound_deleteUser {db : ServerDb} (userId : ℤ) :
    KeepsSound (deleteUser server claims userId) ⟨db, db⟩ := by
  refine keepsSound_withUser (keepsSound_withPermission (keepsSound_answerFound fun user _ => ?_))
  split_ifs
  · exact keepsSound_pure _
  · exact keepsSound_edit_bind (fun h => h.popUser userId)
      (keepsSound_commit.bind fun _ _ => keepsSound_pure _)

/-- The same of creating a role. -/
theorem keepsSound_createRole {db : ServerDb} (body : AddRole) :
    KeepsSound (createRole claims body) ⟨db, db⟩ := by
  refine keepsSound_withAdmin (keepsSound_current ?_)
  cases hfree : db.roleNamed body.name with
  | some _ => exact keepsSound_pure _
  | none =>
    refine keepsSound_lift fun resources => ?_
    refine keepsSound_edit_bind (fun h => ?_)
      (keepsSound_commit.bind fun _ _ => keepsSound_pure _)
    refine h.setRole ?_
    rw [new_role_name]
    exact OrderedDict.freeFor_of_find?_none hfree

/-- The name that `update_role` gives a role is free for the role. -/
theorem freeFor_newRoleName {db : ServerDb} (h : Sound db) (body : EditRole) {role : Role}
    (hrole : db.roles.get? body.id = some role) :
    FreeFor Role.name body.id (newRoleName body db role.name) db.roles := by
  unfold newRoleName
  cases body.name with
  | none => exact h.roleNames.freeFor hrole
  | some name =>
    dsimp only
    split_ifs with hfree
    · exact freeFor_roleName h hfree
    · exact h.roleNames.freeFor hrole

/-- The same of updating a role. -/
theorem keepsSound_updateRole {db : ServerDb} (body : EditRole) :
    KeepsSound (updateRole server claims body) ⟨db, db⟩ := by
  refine keepsSound_withRole (keepsSound_withAdmin (keepsSound_answerFound fun role _ => ?_))
  refine keepsSound_edit_bind
    (fun h => h.editRole fun row hrow => freeFor_newRoleName h body hrow) ?_
  refine KeepsSound.bind (keepsSound_ifGiven fun resources => keepsSound_lift fun entries => ?_)
    fun _ _ => keepsSound_commit.bind fun _ _ => keepsSound_pure _
  exact keepsSound_edit_bind (fun h => h.editRole_of_name fun _ => rfl) keepsSound_commit

/-- The same of deleting a role. -/
theorem keepsSound_deleteRole {db : ServerDb} (roleId : ℤ) :
    KeepsSound (deleteRole server claims roleId) ⟨db, db⟩ := by
  refine keepsSound_withRole (keepsSound_withAdmin (keepsSound_answerFound fun role _ => ?_))
  have hclear : KeepsSound (clearResourcesForRole role.name) ⟨db, db⟩ := by
    refine keepsSound_current ?_
    cases db.roleNamed role.name with
    | none => exact keepsSound_throw _
    | some cleared =>
      exact keepsSound_edit_bind (fun h => h.editRole_of_name fun _ => rfl) keepsSound_commit
  exact hclear.bind fun _ _ => keepsSound_edit_bind (fun h => h.deleteRole roleId)
    (keepsSound_commit.bind fun _ _ => keepsSound_pure _)

/-- Every request keeps the tables sound. -/
theorem keepsSound_handle {db : ServerDb} (request : UserRequest) :
    KeepsSound (handle server salt claims request) ⟨db, db⟩ := by
  cases request with
  | createUser body => exact keepsSound_createUser body
  | updateUser body => exact keepsSound_updateUser body
  | patchUser body => exact keepsSound_updateUser body
  | deleteUser userId => exact keepsSound_deleteUser userId
  | createRole body => exact keepsSound_createRole body
  | updateRole body => exact keepsSound_updateRole body
  | patchRole body => exact keepsSound_updateRole body
  | deleteRole roleId => exact keepsSound_deleteRole roleId

/-- A call leaves sound tables sound. -/
theorem sound_serve {db : ServerDb} (h : Sound db) (call : UserCall) :
    Sound (serve server db call).2 := by
  have hends := @keepsSound_handle server call.salt call.claims db call.request ⟨h, h⟩
  unfold serve answer
  cases hresult : handle server call.salt call.claims call.request ⟨db, db⟩ with
  | ok response t => exact (hends.of_ok hresult).1
  | error e t => exact hends.of_error hresult

end

/-! ## The start of the server -/

/-- The default resources of the admins keep the tables sound. -/
theorem sound_initializeDefaultResourcesAdmin {db db' : ServerDb} (h : Sound db)
    (hok : initializeDefaultResourcesAdmin db = some db') : Sound db' := by
  unfold initializeDefaultResourcesAdmin at hok
  split at hok
  · cases hok
    exact h.editRole_of_name fun _ => rfl
  · split_ifs at hok with hfree
    cases hok
    refine h.setRole ?_
    rw [new_role_name]
    exact OrderedDict.freeFor_of_find?_none (Option.not_isSome_iff_eq_none.mp hfree)

/-- The same of those of the guests. -/
theorem sound_initializeDefaultResourcesGuest {db : ServerDb} (h : Sound db) :
    Sound (initializeDefaultResourcesGuest db) := by
  unfold initializeDefaultResourcesGuest
  split
  · exact h.editRole_of_name fun _ => rfl
  · rename_i hfree
    refine h.setRole ?_
    rw [new_role_name]
    exact OrderedDict.freeFor_of_find?_none hfree

/-- Setting the admin up keeps the tables sound. -/
theorem sound_setupAdmin {server : Server} {salt : ℕ} {db db' : ServerDb} (h : Sound db)
    (hok : setupAdmin server salt db = some db') : Sound db' := by
  unfold setupAdmin at hok
  split at hok
  · rename_i hfree
    obtain ⟨hash, -, rfl⟩ := Option.map_eq_some_iff.mp hok
    refine h.setUser (OrderedDict.freeFor_of_find?_none hfree) ?_
    exact ⟨h.roleIds.filter _, fun _ hmem => (List.mem_filter.mp hmem).1⟩
  · split_ifs at hok with hrole
    cases hok
    refine h.editUser_of_name (fun _ => rfl) fun user huser => ?_
    split_ifs with hone
    · exact huser
    · refine ⟨?_, fun roleId hmem => ?_⟩
      · exact List.nodup_append.mpr ⟨huser.nodup, List.nodup_singleton 1, by
          rintro a ha b hb rfl
          exact hone (List.mem_singleton.mp hb ▸ ha)⟩
      · rcases List.mem_append.mp hmem with hold | hnew
        · exact huser.exist roleId hold
        · rw [List.mem_singleton.mp hnew, OrderedDict.mem_keys_iff]
          exact hrole

/-- The same of creating the admin at the start. -/
theorem sound_createAdminUser {server : Server} {db : ServerDb} (h : Sound db) (salt : ℕ) :
    Sound (createAdminUser server salt db) := by
  unfold createAdminUser
  cases hadmin : initializeDefaultResourcesAdmin db with
  | none => exact h
  | some db' =>
    have hroles :=
      sound_initializeDefaultResourcesGuest (sound_initializeDefaultResourcesAdmin h hadmin)
    dsimp only
    cases hsetup : setupAdmin server salt (initializeDefaultResourcesGuest db') with
    | none => exact hroles
    | some db'' => exact sound_setupAdmin hroles hsetup

/-- **The constraints hold after any sequence of starts and requests**: the endpoints themselves
see to it that names are not taken twice and that users have roles that exist. -/
theorem server_tables_sound {server : Server} {ops : List TableOp} {db : ServerDb}
    (h : Run (TableStep server) { users := [], roles := [] } ops db) : Sound db :=
  h.invariant (fun _ _ _ hsound hstep => by
    cases hstep with
    | start salt => exact sound_createAdminUser hsound salt
    | request call hserve => exact hserve ▸ sound_serve hsound call) sound_empty

/-- A server is started, and an administrator creates a user. -/
theorem server_tables_sound_started :
    Sound (serve sqlite (createAdminUser sqlite 0 { users := [], roles := [] }) largeRoleId).2 :=
  server_tables_sound (.cons (.start 0) (.single (.request largeRoleId rfl)))

end Walkoff.Analysis
