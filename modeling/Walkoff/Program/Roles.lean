import Mathlib.Data.Int.Notation
import Mathlib.Data.List.Dedup
import Walkoff.Library.OrderedDict

/-!
# Roles and their resources

`walkoff.serverdb.role`, `walkoff.serverdb.resource` and the permission checks of
`walkoff.serverdb` and `walkoff.security`. The rows of the table `resource` are kept with the
role they belong to, oldest first, which is also the order in which a query finds them.
-/

set_option autoImplicit false

namespace Walkoff.Program

open Walkoff.Library
open Walkoff.Library.OrderedDict (nextId)

/-- An entry `{name, permissions}` of a list of resources. -/
structure ResourcePerms where
  name : String
  permissions : List String
  deriving DecidableEq, Repr

/-- A row of the table `resource` with its rows of the table `permission`. -/
structure Resource where
  name : String
  permissions : List String
  deriving DecidableEq, Repr

namespace Resource

/-- `Resource.set_permissions`: one row for each name. -/
def setPermissions (newPermissions : List String) (resource : Resource) : Resource :=
  { resource with permissions := newPermissions.dedup }

/-- `Resource.__init__`. -/
def new (entry : ResourcePerms) : Resource :=
  setPermissions entry.permissions { name := entry.name, permissions := [] }

/-- A new resource has its name. -/
@[simp] theorem new_name (entry : ResourcePerms) : (new entry).name = entry.name := rfl

/-- Setting permissions keeps the name. -/
@[simp] theorem setPermissions_name (permissions : List String) (resource : Resource) :
    (setPermissions permissions resource).name = resource.name := rfl

/-- The permissions are those set. -/
@[simp] theorem mem_setPermissions {p : String} {permissions : List String} {resource : Resource} :
    p ∈ (setPermissions permissions resource).permissions ↔ p ∈ permissions := by
  simp [setPermissions]

/-- The permissions of a new resource are those of its entry. -/
@[simp] theorem mem_new {p : String} {entry : ResourcePerms} :
    p ∈ (new entry).permissions ↔ p ∈ entry.permissions := by
  simp [new]

end Resource

/-- A row of the table `role` with its resources. -/
structure Role where
  name : String
  description : String
  resources : List Resource
  deriving DecidableEq, Repr

/-- Set the permissions of the first row with a name, as
`Resource.query.filter_by(role_id=self.id, name=name).first()` finds it. -/
def setFirst (name : String) (permissions : List String) : List Resource → List Resource
  | [] => []
  | resource :: resources =>
    if resource.name = name then resource.setPermissions permissions :: resources
    else resource :: setFirst name permissions resources

namespace Role

/-- The body of the loop of `set_resources`. -/
def setResource (toAdd intersect : List String) (resources : List Resource)
    (resourcePerms : ResourcePerms) : List Resource :=
  if resourcePerms.name ∈ toAdd then resources ++ [Resource.new resourcePerms]
  else if resourcePerms.name ∈ intersect then
    setFirst resourcePerms.name resourcePerms.permissions resources
  else resources

/-- `Role.set_resources`. -/
def setResources (newResources : List ResourcePerms) (role : Role) : Role :=
  let newResourceNames := newResources.map (·.name)
  let currentResourceNames := role.resources.map (·.name)
  let resourceNamesToAdd := newResourceNames.filter (· ∉ currentResourceNames)
  let resourceNamesToDelete := currentResourceNames.filter (· ∉ newResourceNames)
  let resourceNamesIntersect := currentResourceNames.filter (· ∈ newResourceNames)
  let kept := role.resources.filter (·.name ∉ resourceNamesToDelete)
  { role with
    resources :=
      newResources.foldl (setResource resourceNamesToAdd resourceNamesIntersect) kept }

/-- `Role.__init__`. -/
def new (name description : String) (resources : List ResourcePerms) : Role :=
  let role : Role := { name, description, resources := [] }
  if resources.isEmpty then role else setResources resources role

end Role

/-- The table `role` by id. -/
abbrev RoleTable := OrderedDict ℤ Role

/-- A `ResourcePermissions` object: a resource name and the permissions a view asks for. -/
structure ResourcePermissions where
  resource : String
  permissions : List String

/-- `get_roles_by_resource_permissions`: the ids of the roles that a join of the roles, their
resources and the permissions of these finds for one of the permissions. -/
def getRolesByResourcePermissions (roles : RoleTable) (resourcePermission : ResourcePermissions) :
    List ℤ :=
  resourcePermission.permissions.flatMap fun permission =>
    (roles.filter fun row => row.2.resources.any fun resource =>
      resource.name = resourcePermission.resource ∧ permission ∈ resource.permissions).map
        Prod.fst

/-- `user_has_correct_roles` for the role ids among the claims of a token. -/
def userHasCorrectRoles (acceptedRoles userRoles : List ℤ) (allRequired : Bool) : Bool :=
  if acceptedRoles.isEmpty then false
  else if allRequired then acceptedRoles.all (· ∈ userRoles)
  else userRoles.any (· ∈ acceptedRoles)

/-- `_permissions_decorator`: whether the view is reached. -/
def permissionsDecorator (allRequired : Bool) (roles : RoleTable)
    (resourcePermissions : List ResourcePermissions) (userRoles : List ℤ) : Bool :=
  userHasCorrectRoles (resourcePermissions.flatMap (getRolesByResourcePermissions roles)) userRoles
    allRequired

/-- `permissions_accepted_for_resources`. -/
def permissionsAcceptedForResources (roles : RoleTable)
    (resourcePermissions : List ResourcePermissions) (userRoles : List ℤ) : Bool :=
  permissionsDecorator false roles resourcePermissions userRoles

/-- `admin_required`: whether the function is called. -/
def adminRequired (userRoles : List ℤ) : Bool :=
  userHasCorrectRoles [1] userRoles true

/-- Admins have the first role. -/
theorem adminRequired_iff (userRoles : List ℤ) : adminRequired userRoles = true ↔ 1 ∈ userRoles := by
  simp [adminRequired, userHasCorrectRoles]

/-- The roles found have a permission on the resource. -/
theorem mem_getRolesByResourcePermissions {roles : RoleTable} {n : String} {ps : List String}
    {id : ℤ} :
    id ∈ getRolesByResourcePermissions roles ⟨n, ps⟩ ↔
      ∃ role, (id, role) ∈ roles ∧ ∃ resource ∈ role.resources, resource.name = n ∧
        ∃ p ∈ ps, p ∈ resource.permissions := by
  simp only [getRolesByResourcePermissions, List.mem_flatMap, List.mem_map, List.mem_filter,
    List.any_eq_true, decide_eq_true_eq]
  constructor
  · rintro ⟨p, hp, ⟨id, role⟩, ⟨hrole, resource, hresource, hname, hmem⟩, rfl⟩
    exact ⟨role, hrole, resource, hresource, hname, p, hp, hmem⟩
  · rintro ⟨role, hrole, resource, hresource, hname, p, hp, hmem⟩
    exact ⟨p, hp, (id, role), ⟨hrole, resource, hresource, hname, hmem⟩, rfl⟩

/-- A token gets to a view that asks for one permission exactly if one of its roles is among those
found for it. -/
theorem permissionsAccepted_iff (roles : RoleTable) (n p : String) (userRoles : List ℤ) :
    permissionsAcceptedForResources roles [⟨n, [p]⟩] userRoles = true ↔
      ∃ id ∈ userRoles, id ∈ getRolesByResourcePermissions roles ⟨n, [p]⟩ := by
  simp only [permissionsAcceptedForResources, permissionsDecorator, userHasCorrectRoles,
    List.flatMap_singleton]
  by_cases hempty : (getRolesByResourcePermissions roles ⟨n, [p]⟩).isEmpty = true
  · rw [if_pos hempty]
    rw [List.isEmpty_iff] at hempty
    simp [hempty]
  · rw [if_neg hempty]
    simp

/-- A token with one role id gets to such a view exactly if the role is among those found for it. -/
theorem permissionsAccepted_singleton (roles : RoleTable) (n p : String) (id : ℤ) :
    permissionsAcceptedForResources roles [⟨n, [p]⟩] [id] = true ↔
      id ∈ getRolesByResourcePermissions roles ⟨n, [p]⟩ := by
  rw [permissionsAccepted_iff]
  simp

end Walkoff.Program
