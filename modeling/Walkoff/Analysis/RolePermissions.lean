import Mathlib.Data.List.Induction
import Walkoff.Program.Roles

/-!
# The permissions of a role and its last assignment

`set_resources` appends a row for every entry of a new name, but updates only the first row of a
name it keeps. The rows of a name are therefore those of the call that added it, with the
permissions of the first one replaced by every later call.
-/

set_option autoImplicit false

namespace Walkoff.Analysis

open Walkoff.Program
open Walkoff.Library
open Walkoff.Library.OrderedDict (nextId nextId_not_mem)

/-- The rows of a name. -/
def rowsNamed (n : String) (resources : List Resource) : List Resource :=
  resources.filter (·.name = n)

/-- The entries of a name. -/
def entriesFor (n : String) (entries : List ResourcePerms) : List ResourcePerms :=
  entries.filter (·.name = n)

/-- The call since which every list has an entry for the name; there is none when the last list
has not. -/
def addingCall (n : String) (calls : List (List ResourcePerms)) : Option (List ResourcePerms) :=
  (calls.reverse.takeWhile fun entries => n ∈ entries.map (·.name)).getLast?

/-- Some entry for the name lists the permission. -/
def Lists (entries : List ResourcePerms) (n p : String) : Prop :=
  ∃ entry ∈ entries, entry.name = n ∧ p ∈ entry.permissions

/-- What is granted is what the last list gives: nothing else, and all of it when it has no name
twice. -/
def EqualsLast (granted : String → String → Prop) (last : List ResourcePerms) : Prop :=
  (∀ n p, granted n p → Lists last n p) ∧
    ((last.map (·.name)).Nodup → ∀ n p, granted n p ↔ Lists last n p)

/-- A name that was added with several entries lists, in the last list, the permissions of all
but the first of them. -/
def NoLeftovers (calls : List (List ResourcePerms)) (last : List ResourcePerms) : Prop :=
  ∀ n added, addingCall n calls = some added →
    ∀ p, Lists (entriesFor n added).tail n p → Lists last n p

/-- The table after a role was made with the first list and given the later ones. -/
def assignResources (roles : RoleTable) (name description : String) (first : List ResourcePerms)
    (later : List (List ResourcePerms)) : RoleTable :=
  roles.set (nextId roles)
    (later.foldl (fun role entries => role.setResources entries) (Role.new name description first))

/-! ## One call -/

section Call

variable {n : String}

/-- The rows of a name come list by list. -/
theorem rowsNamed_append (resources resources' : List Resource) :
    rowsNamed n (resources ++ resources') = rowsNamed n resources ++ rowsNamed n resources' :=
  List.filter_append ..

/-- Setting the first row of a name leaves those of others. -/
theorem rowsNamed_setFirst (name : String) (permissions : List String)
    (resources : List Resource) :
    rowsNamed n (setFirst name permissions resources) =
      if name = n then (rowsNamed n resources).modifyHead (Resource.setPermissions permissions)
      else rowsNamed n resources := by
  induction resources with
  | nil => simp [setFirst, rowsNamed]
  | cons resource resources ih =>
    unfold rowsNamed at ih ⊢
    by_cases hfirst : resource.name = name
    · by_cases hn : name = n
      · simp [setFirst, hfirst, hn]
      · simp [setFirst, hfirst, hn]
    · rw [setFirst, if_neg hfirst]
      by_cases hn : name = n
      · have hne : resource.name ≠ n := fun h => hfirst (h.trans hn.symm)
        rw [if_pos hn] at ih ⊢
        simpa [hne] using ih
      · rw [if_neg hn] at ih ⊢
        by_cases hresource : resource.name = n
        · simp [hresource, ih]
        · simp [hresource, ih]

/-- An entry leaves the rows of the other names alone. -/
theorem rowsNamed_setResource_of_ne {toAdd intersect : List String} {entry : ResourcePerms}
    (hn : entry.name ≠ n) (resources : List Resource) :
    rowsNamed n (Role.setResource toAdd intersect resources entry) = rowsNamed n resources := by
  unfold Role.setResource
  split
  · simp [rowsNamed, hn]
  · split
    · rw [rowsNamed_setFirst, if_neg hn]
    · rfl

/-- The rows of a name that is added: one more for each entry. -/
theorem rowsNamed_fold_add {toAdd intersect : List String} (hadd : n ∈ toAdd)
    (entries : List ResourcePerms) (resources : List Resource) :
    rowsNamed n (entries.foldl (Role.setResource toAdd intersect) resources) =
      rowsNamed n resources ++ (entriesFor n entries).map Resource.new := by
  induction entries generalizing resources with
  | nil => simp [entriesFor]
  | cons entry entries ih =>
    rw [List.foldl_cons, ih]
    by_cases hn : entry.name = n
    · have hentry : entry.name ∈ toAdd := hn ▸ hadd
      rw [Role.setResource, if_pos hentry, rowsNamed_append]
      simp [rowsNamed, entriesFor, hn]
    · rw [rowsNamed_setResource_of_ne hn]
      simp [entriesFor, hn]

/-- The rows of a name that is kept: the first one gets the permissions of the last entry. -/
theorem rowsNamed_fold_keep {toAdd intersect : List String} (hadd : n ∉ toAdd)
    (hkeep : n ∈ intersect) (entries : List ResourcePerms) (resources : List Resource) :
    rowsNamed n (entries.foldl (Role.setResource toAdd intersect) resources) =
      match (entriesFor n entries).getLast? with
      | none => rowsNamed n resources
      | some entry =>
        (rowsNamed n resources).modifyHead (Resource.setPermissions entry.permissions) := by
  induction entries generalizing resources with
  | nil => simp [entriesFor]
  | cons entry entries ih =>
    rw [List.foldl_cons, ih]
    by_cases hn : entry.name = n
    · have hrows : rowsNamed n (Role.setResource toAdd intersect resources entry) =
          (rowsNamed n resources).modifyHead (Resource.setPermissions entry.permissions) := by
        rw [Role.setResource, if_neg (hn ▸ hadd), if_pos (hn ▸ hkeep), rowsNamed_setFirst,
          if_pos hn]
      have hentries : entriesFor n (entry :: entries) = entry :: entriesFor n entries := by
        simp [entriesFor, hn]
      rw [hrows, hentries]
      cases hlast : (entriesFor n entries).getLast? with
      | none =>
        rw [List.getLast?_eq_none_iff] at hlast
        simp [hlast]
      | some last =>
        have hlast' : (entry :: entriesFor n entries).getLast? = some last := by
          rw [List.getLast?_cons, hlast]
          rfl
        rw [hlast']
        cases rowsNamed n resources with
        | nil => rfl
        | cons row rows => rfl
    · rw [rowsNamed_setResource_of_ne hn]
      simp [entriesFor, hn]

/-- A call leaves no row of a name that its list has not. -/
theorem rowsNamed_setResources_of_not_mem {entries : List ResourcePerms}
    (h : n ∉ entries.map (·.name)) (role : Role) :
    rowsNamed n (role.setResources entries).resources = [] := by
  have hfold : ∀ (toAdd intersect : List String) (rest : List ResourcePerms)
      (resources : List Resource), n ∉ rest.map (·.name) →
      rowsNamed n (rest.foldl (Role.setResource toAdd intersect) resources) =
        rowsNamed n resources := by
    intro toAdd intersect rest
    induction rest with
    | nil => exact fun _ _ => rfl
    | cons entry rest ih =>
      intro resources hrest
      rw [List.map_cons, List.mem_cons, not_or] at hrest
      rw [List.foldl_cons, ih _ hrest.2, rowsNamed_setResource_of_ne (Ne.symm hrest.1)]
  unfold Role.setResources
  dsimp only
  rw [hfold _ _ _ _ h]
  unfold rowsNamed
  rw [List.filter_filter, List.filter_eq_nil_iff]
  intro resource hresource
  simp only [Bool.and_eq_true, decide_eq_true_eq, not_and]
  rintro rfl hkept
  refine hkept ?_
  simp only [List.mem_filter, List.mem_map, decide_eq_true_eq]
  exact ⟨⟨resource, hresource, rfl⟩, by simpa using h⟩

/-- The rows that `set_resources` keeps before its loop, for a name in its list. -/
theorem rowsNamed_kept {entries : List ResourcePerms} (h : n ∈ entries.map (·.name))
    (resources : List Resource) :
    rowsNamed n (resources.filter (·.name ∉
      (resources.map (·.name)).filter (· ∉ entries.map (·.name)))) = rowsNamed n resources := by
  unfold rowsNamed
  rw [List.filter_filter]
  apply List.filter_congr
  intro resource hresource
  by_cases hn : resource.name = n
  · subst hn
    simp only [decide_true, Bool.true_and, decide_eq_true_eq, List.mem_filter, not_and]
    intro _ hnot
    exact absurd h (by simpa using hnot)
  · simp [hn]

/-- A call on a role without rows of a name makes one for each entry. -/
theorem rowsNamed_setResources_add {entries : List ResourcePerms} {role : Role}
    (h : n ∈ entries.map (·.name)) (hnew : rowsNamed n role.resources = []) :
    rowsNamed n (role.setResources entries).resources =
      (entriesFor n entries).map Resource.new := by
  have hcurrent : n ∉ role.resources.map (·.name) := by
    intro hmem
    obtain ⟨resource, hresource, hname⟩ := List.mem_map.mp hmem
    have := (List.filter_eq_nil_iff.mp hnew) resource hresource
    simp [hname] at this
  unfold Role.setResources
  dsimp only
  rw [rowsNamed_fold_add (List.mem_filter.mpr ⟨h, decide_eq_true hcurrent⟩), rowsNamed_kept h,
    hnew, List.nil_append]

/-- A call on a role with rows of a name gives the first of them the permissions of the last
entry. -/
theorem rowsNamed_setResources_keep {entries : List ResourcePerms} {role : Role}
    {entry : ResourcePerms} (hlast : (entriesFor n entries).getLast? = some entry)
    (hrows : rowsNamed n role.resources ≠ []) :
    rowsNamed n (role.setResources entries).resources =
      (rowsNamed n role.resources).modifyHead (Resource.setPermissions entry.permissions) := by
  have hmem : entry ∈ entriesFor n entries := List.mem_of_getLast? hlast
  have h : n ∈ entries.map (·.name) := by
    obtain ⟨hentry, hname⟩ := List.mem_filter.mp hmem
    exact List.mem_map.mpr ⟨entry, hentry, of_decide_eq_true hname⟩
  have hcurrent : n ∈ role.resources.map (·.name) := by
    obtain ⟨resource, hresource⟩ := List.exists_mem_of_ne_nil _ hrows
    obtain ⟨hresource, hname⟩ := List.mem_filter.mp hresource
    exact List.mem_map.mpr ⟨resource, hresource, of_decide_eq_true hname⟩
  unfold Role.setResources
  dsimp only
  rw [rowsNamed_fold_keep (by simp only [List.mem_filter, decide_eq_true_eq]; tauto)
    (by simp only [List.mem_filter, decide_eq_true_eq]; tauto), rowsNamed_kept h, hlast]

end Call

/-! ## All calls -/

/-- The rows of a name after some calls: one for each entry of the call that added the name, the
first of them with the permissions of an entry of the last call. -/
inductive RowsOf (n : String) (calls : List (List ResourcePerms)) (resources : List Resource) :
    Prop where
  | absent (hadded : addingCall n calls = none) (hrows : rowsNamed n resources = [])
  | present {added last : List ResourcePerms} {entry : ResourcePerms} {row : Resource}
    (hadded : addingCall n calls = some added) (hlast : calls.getLast? = some last)
    (hentry : entry ∈ last) (hname : entry.name = n)
    (hrow : ∀ p, p ∈ row.permissions ↔ p ∈ entry.permissions)
    (hrows : rowsNamed n resources = row :: (entriesFor n added).tail.map Resource.new)

section Calls

variable {n : String}

/-- A name that the last list does not have is not added. -/
theorem addingCall_concat_of_not_mem {calls : List (List ResourcePerms)}
    {last : List ResourcePerms} (h : n ∉ last.map (·.name)) :
    addingCall n (calls ++ [last]) = none := by
  unfold addingCall
  rw [List.reverse_append, List.reverse_singleton, List.singleton_append,
    List.takeWhile_cons_of_neg (by simpa using h), List.getLast?_nil]

/-- A name that the last list has was added by an earlier one or by it. -/
theorem addingCall_concat_of_mem {calls : List (List ResourcePerms)}
    {last : List ResourcePerms} (h : n ∈ last.map (·.name)) :
    addingCall n (calls ++ [last]) = some ((addingCall n calls).getD last) := by
  unfold addingCall
  rw [List.reverse_append, List.reverse_singleton, List.singleton_append,
    List.takeWhile_cons_of_pos (by simpa using h), List.getLast?_cons]

/-- A name that occurs has entries. -/
theorem entriesFor_ne_nil {entries : List ResourcePerms} (h : n ∈ entries.map (·.name)) :
    entriesFor n entries ≠ [] := by
  obtain ⟨entry, hentry, hname⟩ := List.mem_map.mp h
  exact List.ne_nil_of_mem (List.mem_filter.mpr ⟨hentry, decide_eq_true hname⟩)

/-- The entries of a name are those that have it. -/
theorem mem_entriesFor {entry : ResourcePerms} {entries : List ResourcePerms} :
    entry ∈ entriesFor n entries ↔ entry ∈ entries ∧ entry.name = n := by
  simp [entriesFor]

/-- **A call keeps the account of the rows.** -/
theorem rowsOf_setResources {calls : List (List ResourcePerms)} {role : Role}
    (h : RowsOf n calls role.resources) (last : List ResourcePerms) :
    RowsOf n (calls ++ [last]) (role.setResources last).resources := by
  by_cases hmem : n ∈ last.map (·.name)
  · cases h with
    | absent hadded hrows =>
      obtain ⟨entry, rest, hentries⟩ := List.exists_cons_of_ne_nil (entriesFor_ne_nil hmem)
      obtain ⟨hentry, hname⟩ := mem_entriesFor.mp (hentries ▸ List.mem_cons_self)
      refine @RowsOf.present n _ _ last last entry (Resource.new entry) ?_ List.getLast?_concat
        hentry hname (fun p => Resource.mem_new) ?_
      · rw [addingCall_concat_of_mem hmem, hadded, Option.getD_none]
      · rw [rowsNamed_setResources_add hmem hrows, hentries, List.map_cons, List.tail_cons]
    | @present added _ _ row hadded _ _ _ _ hrows =>
      obtain ⟨entry, hentry⟩ : ∃ entry, (entriesFor n last).getLast? = some entry :=
        ⟨_, List.getLast?_eq_some_getLast (entriesFor_ne_nil hmem)⟩
      obtain ⟨hentry', hname⟩ := mem_entriesFor.mp (List.mem_of_getLast? hentry)
      refine @RowsOf.present n _ _ added last entry (row.setPermissions entry.permissions) ?_
        List.getLast?_concat hentry' hname (fun p => Resource.mem_setPermissions) ?_
      · rw [addingCall_concat_of_mem hmem, hadded, Option.getD_some]
      · rw [rowsNamed_setResources_keep hentry (by rw [hrows]; exact List.cons_ne_nil _ _), hrows,
          List.modifyHead_cons]
  · exact .absent (addingCall_concat_of_not_mem hmem) (rowsNamed_setResources_of_not_mem hmem role)

/-- `Role.__init__` does what a call on an empty role does. -/
theorem new_eq_setResources (name description : String) (resources : List ResourcePerms) :
    Role.new name description resources =
      Role.setResources resources { name, description, resources := [] } := by
  cases resources with
  | nil => rfl
  | cons entry rest => rfl

/-- **Every run of calls keeps the account of the rows.** -/
theorem rowsOf_calls (n name description : String) (first : List ResourcePerms)
    (later : List (List ResourcePerms)) :
    RowsOf n (first :: later)
      (later.foldl (fun role entries => role.setResources entries)
        (Role.new name description first)).resources := by
  induction later using List.reverseRecOn with
  | nil =>
    rw [List.foldl_nil, new_eq_setResources]
    exact @rowsOf_setResources n [] { name, description, resources := [] } (.absent rfl rfl) first
  | append_singleton later last ih =>
    rw [List.foldl_append, List.foldl_cons, List.foldl_nil, ← List.cons_append]
    exact rowsOf_setResources ih last

end Calls

/-! ## What is granted -/

/-- A permission is granted exactly if some row of its resource has it. -/
theorem granted_iff (roles : RoleTable) (name description : String) (first : List ResourcePerms)
    (later : List (List ResourcePerms)) (n p : String) :
    nextId roles ∈ getRolesByResourcePermissions (assignResources roles name description first later)
        ⟨n, [p]⟩ ↔
      ∃ row ∈ rowsNamed n (later.foldl (fun role entries => role.setResources entries)
        (Role.new name description first)).resources, p ∈ row.permissions := by
  rw [mem_getRolesByResourcePermissions]
  unfold assignResources rowsNamed
  have hfresh := nextId_not_mem roles
  constructor
  · rintro ⟨role, hrole, resource, hresource, hname, q, hq, hmem⟩
    rw [List.mem_singleton] at hq
    subst hq
    rw [OrderedDict.set_of_not_mem hfresh, List.mem_append, List.mem_singleton] at hrole
    rcases hrole with hold | hnew
    · exact absurd (List.mem_map.mpr ⟨_, hold, rfl⟩) hfresh
    · obtain ⟨-, rfl⟩ := Prod.mk.inj hnew
      exact ⟨resource, List.mem_filter.mpr ⟨hresource, decide_eq_true hname⟩, hmem⟩
  · rintro ⟨resource, hresource, hmem⟩
    obtain ⟨hresource, hname⟩ := List.mem_filter.mp hresource
    refine ⟨_, ?_, resource, hresource, of_decide_eq_true hname, p, List.mem_singleton_self p, hmem⟩
    rw [OrderedDict.set_of_not_mem hfresh]
    exact List.mem_append_right _ (List.mem_singleton_self _)

/-- In a list without a name twice, two entries of one name are one entry. -/
theorem entry_unique {entries : List ResourcePerms} (h : (entries.map (·.name)).Nodup)
    {entry other : ResourcePerms} (hentry : entry ∈ entries) (hother : other ∈ entries)
    (hname : entry.name = other.name) : entry = other :=
  List.inj_on_of_nodup_map h hentry hother hname

/-- Whatever is granted exactly through the rows of a name equals the last list exactly if no
leftovers are. -/
theorem equalsLast_iff (name description : String) (first : List ResourcePerms)
    (later : List (List ResourcePerms)) {granted : String → String → Prop}
    (hgranted : ∀ n p, granted n p ↔
      ∃ row ∈ rowsNamed n (later.foldl (fun role entries => role.setResources entries)
        (Role.new name description first)).resources, p ∈ row.permissions) :
    EqualsLast granted ((first :: later).getLast (List.cons_ne_nil _ _)) ↔
      NoLeftovers (first :: later) ((first :: later).getLast (List.cons_ne_nil _ _)) := by
  have hlast := List.getLast?_eq_some_getLast (List.cons_ne_nil first later)
  generalize (first :: later).getLast (List.cons_ne_nil _ _) = last at hlast
  constructor
  · rintro ⟨honly, -⟩ n added hadded p ⟨entry, hentry, hname, hp⟩
    apply honly
    rw [hgranted]
    cases rowsOf_calls n name description first later with
    | absent hnone _ => rw [hnone] at hadded; cases hadded
    | present hadded' _ _ _ _ hrows =>
      obtain rfl := Option.some.inj (hadded'.symm.trans hadded)
      refine ⟨Resource.new entry, ?_, Resource.mem_new.mpr hp⟩
      rw [hrows]
      exact List.mem_cons_of_mem _ (List.mem_map_of_mem hentry)
  · intro hnone
    have honly : ∀ n p, granted n p → Lists last n p := by
      intro n p hp
      obtain ⟨row, hrow, hmem⟩ := (hgranted n p).mp hp
      cases rowsOf_calls n name description first later with
      | absent _ hrows => rw [hrows] at hrow; cases hrow
      | present hadded hlast' hentry hname hfirst hrows =>
        rw [hrows] at hrow
        rcases List.mem_cons.mp hrow with rfl | htail
        · obtain rfl := Option.some.inj (hlast.symm.trans hlast')
          exact ⟨_, hentry, hname, (hfirst p).mp hmem⟩
        · obtain ⟨entry, hentry', rfl⟩ := List.mem_map.mp htail
          have hname' := (mem_entriesFor.mp (List.mem_of_mem_tail hentry')).2
          exact hnone n _ hadded p ⟨entry, hentry', hname', Resource.mem_new.mp hmem⟩
    refine ⟨honly, fun hnodup n p => ⟨honly n p, ?_⟩⟩
    rintro ⟨entry, hentry, hname, hp⟩
    rw [hgranted]
    cases rowsOf_calls n name description first later with
    | absent hadded _ =>
      have hmem : n ∈ last.map (·.name) := List.mem_map.mpr ⟨entry, hentry, hname⟩
      obtain ⟨before, hcalls⟩ := List.getLast?_eq_some_iff.mp hlast
      rw [hcalls, addingCall_concat_of_mem hmem] at hadded
      cases hadded
    | present hadded hlast' hentry' hname' hfirst hrows =>
      obtain rfl := Option.some.inj (hlast.symm.trans hlast')
      obtain rfl := entry_unique hnodup hentry hentry' (hname.trans hname'.symm)
      refine ⟨_, ?_, (hfirst p).mpr hp⟩
      rw [hrows]
      exact List.mem_cons_self

/-- **Permissions equal the last assignment exactly if** no leftovers of an earlier call are
granted. -/
theorem permissions_equal_last_iff (roles : RoleTable) (name description : String)
    (first : List ResourcePerms) (later : List (List ResourcePerms)) :
    (EqualsLast (fun n p => nextId roles ∈ getRolesByResourcePermissions
          (assignResources roles name description first later) ⟨n, [p]⟩)
        ((first :: later).getLast (List.cons_ne_nil _ _)) ↔
      NoLeftovers (first :: later) ((first :: later).getLast (List.cons_ne_nil _ _))) ∧
    (EqualsLast (fun n p => permissionsAcceptedForResources
          (assignResources roles name description first later) [⟨n, [p]⟩] [nextId roles] = true)
        ((first :: later).getLast (List.cons_ne_nil _ _)) ↔
      NoLeftovers (first :: later) ((first :: later).getLast (List.cons_ne_nil _ _))) := by
  refine ⟨equalsLast_iff name description first later ?_,
    equalsLast_iff name description first later ?_⟩
  · intro n p
    exact granted_iff roles name description first later n p
  · intro n p
    rw [permissionsAccepted_singleton]
    exact granted_iff roles name description first later n p

/-- A name with two entries at first, and one entry later: the permission of the second entry is
still granted. -/
theorem duplicate_entry_not_revoked :
    ¬ EqualsLast
      (fun n p => nextId ([] : RoleTable) ∈ getRolesByResourcePermissions
        (assignResources [] "analyst" "" [⟨"playbooks", ["read"]⟩, ⟨"playbooks", ["execute"]⟩]
          [[⟨"playbooks", ["read"]⟩]]) ⟨n, [p]⟩)
      [⟨"playbooks", ["read"]⟩] := by
  rintro ⟨honly, -⟩
  have hgranted : nextId ([] : RoleTable) ∈ getRolesByResourcePermissions
      (assignResources [] "analyst" "" [⟨"playbooks", ["read"]⟩, ⟨"playbooks", ["execute"]⟩]
        [[⟨"playbooks", ["read"]⟩]]) ⟨"playbooks", ["execute"]⟩ := by decide
  obtain ⟨entry, hentry, -, hp⟩ := honly "playbooks" "execute" hgranted
  rw [List.mem_singleton] at hentry
  subst hentry
  revert hp
  decide

end Walkoff.Analysis
