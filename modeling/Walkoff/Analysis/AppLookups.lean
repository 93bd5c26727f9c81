import Walkoff.Program.AppCache

/-!
# Lookups in the app cache

Listing the functions of a type filters by tag, and looking one up checks the tag of the entry it
finds, but signals only a name that is not in the table: a name that is there under other tags
gives `None` (`lookupsAgree_iff`). Bound functions always belong to the latest class.
-/

set_option autoImplicit false

namespace Walkoff.Analysis

open Walkoff.Library Walkoff.Program

/-! ## The law -/

/-- The cache after a sequence of operations. -/
def cacheAfter (ops : List CacheOp) : AppCache :=
  ops.foldl AppCache.serve []

/-- The lookup of a name and the listing of the names agree. -/
structure LookupsAgree (cache : AppCache) (app name : String) (type : WalkoffTag) : Prop where
  returns : (∃ func, cache.getFunctionType app name type = .ok (some func)) ↔
    ∃ names, cache.getFunctionTypeNames app type = .ok names ∧ name ∈ names
  unknownApp : app ∉ cache.keys → cache.getFunctionType app name type = .error (.unknownApp app)
  unknownName : ∀ names, cache.getFunctionTypeNames app type = .ok names → name ∉ names →
    cache.getFunctionType app name type = .error (exceptionLookup type app name)
  notNone : cache.getFunctionType app name type ≠ .ok none

/-- The class of an app after a member of a module. -/
def noteMember (latest : Option AppClass) : ModuleMember → Option AppClass
  | .cls c => if c.isWalkoffApp ∧ c.qualifiedName ≠ "apps.App" then some c else latest
  | .function _ => latest
  | .other => latest

/-- The class of an app after an operation. -/
def noteClass (app : String) (latest : Option AppClass) : CacheOp → Option AppClass
  | .cacheApp appClass appName _ => if appName = app then some appClass else latest
  | .cacheFunctions _ _ _ => latest
  | .cacheModule members appName _ =>
    if appName = app then members.foldl noteMember latest else latest
  | .clear => none

/-- The class that was cached last for an app. -/
def latestClass (app : String) (ops : List CacheOp) : Option AppClass :=
  ops.foldl (noteClass app) none

/-- Every bound function of the app is a method of the class that was cached last. -/
def OnlyLatestBound (ops : List CacheOp) (app : String) : Prop :=
  ∀ name, (cacheAfter ops).isAppActionBound app name = .ok true →
    ∃ appCache entry cls, OrderedDict.get? app (cacheAfter ops) = some appCache ∧
      OrderedDict.get? name appCache.functions = some entry ∧
      latestClass app ops = some cls ∧ entry.run ∈ cls.methods

/-- The name is in the table of the app, under other tags only. -/
def UnderOtherTags (cache : AppCache) (app name : String) (type : WalkoffTag) : Prop :=
  ∃ appCache entry, OrderedDict.get? app cache = some appCache ∧
    OrderedDict.get? name appCache.functions = some entry ∧ type ∉ entry.tags

/-! ## Lookups -/

/-- The listing of a tag has the functions that carry it. -/
theorem mem_getTaggedFunctions (appCache : AppCacheEntry) (name : String) (tag : WalkoffTag) :
    name ∈ appCache.getTaggedFunctions tag ↔
      ∃ entry, OrderedDict.get? name appCache.functions = some entry ∧ tag ∈ entry.tags := by
  unfold AppCacheEntry.getTaggedFunctions
  rw [List.mem_map]
  constructor
  · rintro ⟨⟨_, entry⟩, hitem, rfl⟩
    obtain ⟨hmem, htag⟩ := List.mem_filter.mp hitem
    exact ⟨entry, OrderedDict.get?_of_mem appCache.nodup hmem, of_decide_eq_true htag⟩
  · rintro ⟨entry, hget, htag⟩
    exact ⟨(name, entry),
      List.mem_filter.mpr ⟨OrderedDict.mem_of_get? hget, decide_eq_true htag⟩, rfl⟩

/-- What a lookup in a known app gives. -/
theorem getFunctionType_of_known {cache : AppCache} {app : String} {appCache : AppCacheEntry}
    (hget : OrderedDict.get? app cache = some appCache) (name : String) (type : WalkoffTag) :
    cache.getFunctionType app name type =
      match OrderedDict.get? name appCache.functions with
      | none => .error (exceptionLookup type app name)
      | some entry => if type ∈ entry.tags then .ok (some entry.run) else .ok none := by
  unfold AppCache.getFunctionType AppCacheEntry.getRun
  rw [hget]
  dsimp only
  by_cases hempty : appCache.functions = []
  · rw [if_pos hempty, hempty]
    rfl
  · rw [if_neg hempty]
    cases hentry : OrderedDict.get? name appCache.functions with
    | none => rfl
    | some entry =>
      dsimp only
      split_ifs with htag
      · rfl
      · rfl

/-- The listing of an app that is cached. -/
theorem getFunctionTypeNames_of_known {cache : AppCache} {app : String}
    {appCache : AppCacheEntry} (hget : OrderedDict.get? app cache = some appCache)
    (type : WalkoffTag) :
    cache.getFunctionTypeNames app type = .ok (appCache.getTaggedFunctions type) := by
  unfold AppCache.getFunctionTypeNames
  rw [hget]
  rfl

/-- For an app that is not in the cache both raise. -/
theorem lookupsAgree_of_unknown {cache : AppCache} {app : String}
    (hget : OrderedDict.get? app cache = none) (name : String) (type : WalkoffTag) :
    LookupsAgree cache app name type := by
  have hlookup : cache.getFunctionType app name type = .error (.unknownApp app) := by
    unfold AppCache.getFunctionType
    rw [hget]
    rfl
  have hnames : cache.getFunctionTypeNames app type = .error (.unknownApp app) := by
    unfold AppCache.getFunctionTypeNames
    rw [hget]
    rfl
  refine ⟨?_, fun _ => hlookup, ?_, ?_⟩
  · rw [hlookup, hnames]
    constructor
    · rintro ⟨func, h⟩
      cases h
    · rintro ⟨names, h, -⟩
      cases h
  · rw [hnames]
    intro names h
    cases h
  · rw [hlookup]
    intro h
    cases h

/-- In a known app they agree when every entry of the name has the tag. -/
theorem lookupsAgree_of_known {cache : AppCache} {app name : String} {type : WalkoffTag}
    {appCache : AppCacheEntry} (hget : OrderedDict.get? app cache = some appCache)
    (htag : ∀ entry, OrderedDict.get? name appCache.functions = some entry → type ∈ entry.tags) :
    LookupsAgree cache app name type := by
  have hlookup := getFunctionType_of_known hget name type
  have hnames := getFunctionTypeNames_of_known hget type
  have hmem := mem_getTaggedFunctions appCache name type
  have hknown : app ∈ cache.keys := by
    rw [OrderedDict.mem_keys_iff, hget]
    rfl
  cases hentry : OrderedDict.get? name appCache.functions with
  | none =>
    rw [hentry] at hlookup
    have hnot : name ∉ appCache.getTaggedFunctions type := by
      rw [hmem, hentry]
      rintro ⟨entry, h, -⟩
      cases h
    refine ⟨?_, fun h => absurd hknown h, fun _ _ _ => hlookup, ?_⟩
    · rw [hlookup, hnames]
      constructor
      · rintro ⟨func, h⟩
        cases h
      · rintro ⟨names, h, hname⟩
        cases h
        exact absurd hname hnot
    · rw [hlookup]
      intro h
      cases h
  | some entry =>
    rw [hentry] at hlookup
    dsimp only at hlookup
    rw [if_pos (htag entry hentry)] at hlookup
    have hlisted := hmem.mpr ⟨entry, hentry, htag entry hentry⟩
    refine ⟨?_, fun h => absurd hknown h, ?_, ?_⟩
    · rw [hlookup, hnames]
      exact ⟨fun _ => ⟨_, rfl, hlisted⟩, fun _ => ⟨entry.run, rfl⟩⟩
    · rw [hnames]
      rintro names h hname
      cases h
      exact absurd hlisted hname
    · rw [hlookup]
      intro h
      cases h

/-- Lookup and listing agree except for a name that is in the table under other tags. -/
theorem lookupsAgree_iff_not_underOtherTags (cache : AppCache) (app name : String)
    (type : WalkoffTag) :
    LookupsAgree cache app name type ↔ ¬UnderOtherTags cache app name type := by
  constructor
  · rintro h ⟨appCache, entry, hget, hentry, htag⟩
    apply h.notNone
    rw [getFunctionType_of_known hget, hentry]
    exact if_neg htag
  · intro hother
    cases hget : OrderedDict.get? app cache with
    | none => exact lookupsAgree_of_unknown hget name type
    | some appCache =>
      apply lookupsAgree_of_known hget
      intro entry hentry
      by_contra htag
      exact hother ⟨appCache, entry, hget, hentry, htag⟩

/-! ## Bound functions -/

/-- The class of an app in the cache. -/
def mainOf (cache : AppCache) (app : String) : Option AppClass :=
  (OrderedDict.get? app cache).bind AppCacheEntry.main

/-- A change of the entry of one app leaves the main classes of the others alone. -/
theorem mainOf_change {cache : AppCache} {app : String} (appName : String)
    (f : AppCacheEntry → AppCacheEntry) :
    mainOf (cache.change appName (.new appName) f) app =
      if app = appName then (f (cache.valueOr appName (.new appName))).main
      else mainOf cache app := by
  unfold mainOf OrderedDict.change
  rw [OrderedDict.get?_set]
  split_ifs with h
  · rfl
  · rfl

/-- An app without an entry has no main class. -/
theorem main_valueOr (cache : AppCache) (app : String) :
    (cache.valueOr app (.new app)).main = mainOf cache app := by
  unfold mainOf OrderedDict.valueOr
  cases OrderedDict.get? app cache with
  | none => rfl
  | some appCache => rfl

/-- Caching an app sets its main class. -/
theorem mainOf_cacheApp (cache : AppCache) (appClass : AppClass) (appName appPath app : String) :
    mainOf (cache.cacheApp appClass appName appPath) app =
      if appName = app then some appClass else mainOf cache app := by
  unfold AppCache.cacheApp
  rw [mainOf_change]
  by_cases h : app = appName
  · rw [if_pos h, if_pos h.symm]
    rfl
  · rw [if_neg h, if_neg (Ne.symm h)]

/-- Caching functions leaves the main classes alone. -/
theorem mainOf_cacheFunctions (cache : AppCache)
    (functions : List (TaggedFunction × List WalkoffTag)) (appName appPath app : String) :
    mainOf (cache.cacheFunctions functions appName appPath) app = mainOf cache app := by
  unfold AppCache.cacheFunctions
  rw [mainOf_change]
  split_ifs with h
  · subst h
    exact main_valueOr cache app
  · rfl

/-- The classes of a module are cached one after the other. -/
theorem mainOf_cacheModule (cache : AppCache) (members : List ModuleMember)
    (appName appPath app : String) : mainOf (cache.cacheModule members appName appPath) app =
      if appName = app then members.foldl noteMember (mainOf cache app)
      else mainOf cache app := by
  have hmember : ∀ (state : AppCache × List (TaggedFunction × List WalkoffTag)) basePath member,
      mainOf (AppCache.cacheMember appName basePath state member).1 app =
        if appName = app then noteMember (mainOf state.1 app) member else mainOf state.1 app := by
    intro state basePath member
    unfold AppCache.cacheMember noteMember
    cases member with
    | cls c =>
      dsimp only
      split_ifs with hclass happ
      · rw [mainOf_cacheApp, if_pos happ]
      · rw [mainOf_cacheApp, if_neg happ]
      · rfl
      · rfl
    | function func =>
      dsimp only
      split_ifs <;> rfl
    | other => exact (ite_self _).symm
  have hloop : ∀ (members : List ModuleMember)
      (state : AppCache × List (TaggedFunction × List WalkoffTag)) basePath,
      mainOf (members.foldl (AppCache.cacheMember appName basePath) state).1 app =
        if appName = app then members.foldl noteMember (mainOf state.1 app)
        else mainOf state.1 app := by
    intro members
    induction members with
    | nil => exact fun state _ => (ite_self _).symm
    | cons member members ih =>
      intro state basePath
      rw [List.foldl_cons, ih, hmember]
      split_ifs
      · rfl
      · rfl
  unfold AppCache.cacheModule
  dsimp only
  split_ifs with hactions happ happ
  · rw [mainOf_cacheFunctions, hloop, if_pos happ]
  · rw [mainOf_cacheFunctions, hloop, if_neg happ]
  · rw [hloop, if_pos happ]
  · rw [hloop, if_neg happ]

/-- What an operation does to the main class of an app. -/
theorem mainOf_serve (cache : AppCache) (op : CacheOp) (app : String) :
    mainOf (cache.serve op) app = noteClass app (mainOf cache app) op := by
  cases op with
  | cacheApp appClass appName appPath => exact mainOf_cacheApp cache appClass appName appPath app
  | cacheFunctions functions appName appPath =>
    exact mainOf_cacheFunctions cache functions appName appPath app
  | cacheModule members appName appPath =>
    exact mainOf_cacheModule cache members appName appPath app
  | clear => rfl

/-- After every sequence of operations the class of an app is the one that was cached last. -/
theorem mainOf_cacheAfter (ops : List CacheOp) (app : String) :
    mainOf (cacheAfter ops) app = latestClass app ops := by
  have hrun : ∀ (ops : List CacheOp) (cache : AppCache),
      mainOf (ops.foldl AppCache.serve cache) app =
        ops.foldl (noteClass app) (mainOf cache app) := by
    intro ops
    induction ops with
    | nil => exact fun _ => rfl
    | cons op ops ih =>
      intro cache
      rw [List.foldl_cons, List.foldl_cons, ih, mainOf_serve]
  exact hrun ops []

/-- After every sequence of operations only functions of the latest class are bound. -/
theorem onlyLatestBound (ops : List CacheOp) (app : String) : OnlyLatestBound ops app := by
  intro name hbound
  unfold AppCache.isAppActionBound at hbound
  cases hget : OrderedDict.get? app (cacheAfter ops) with
  | none =>
    rw [hget] at hbound
    cases hbound
  | some appCache =>
    rw [hget] at hbound
    dsimp only at hbound
    split_ifs at hbound
    unfold AppCacheEntry.isBound at hbound
    cases hentry : OrderedDict.get? name appCache.functions with
    | none =>
      rw [hentry] at hbound
      cases hbound
    | some entry =>
      rw [hentry] at hbound
      obtain ⟨cls, hmain, hmethod⟩ := appCache.bound _ (OrderedDict.mem_of_get? hentry)
        (Except.ok.inj hbound)
      refine ⟨appCache, entry, cls, rfl, hentry, ?_, hmethod⟩
      rw [← mainOf_cacheAfter]
      unfold mainOf
      rw [hget]
      exact hmain

/-! ## Lookups against listings -/

/-- After every sequence of operations, for every app, name and type: the lookup agrees with the
listing and only functions of the latest class are bound exactly when the name is not in the
table of the app under other tags only. -/
theorem appLookups_iff (ops : List CacheOp) (app name : String) (type : WalkoffTag) :
    (LookupsAgree (cacheAfter ops) app name type ∧ OnlyLatestBound ops app) ↔
      ¬UnderOtherTags (cacheAfter ops) app name type := by
  rw [and_iff_left (onlyLatestBound ops app)]
  exact lookupsAgree_iff_not_underOtherTags _ app name type

/-- A function with the tag of conditions only. -/
def regMatch : TaggedFunction where
  identity := 0
  moduleName := "apps.Utilities.conditions"
  name := "regMatch"
  isTagged tag := tag = .condition

/-- A condition that is looked up as an action gives `None`. -/
theorem condition_as_action_gives_none : ¬∀ (ops : List CacheOp) (app name : String)
    (type : WalkoffTag), LookupsAgree (cacheAfter ops) app name type := by
  intro hall
  have h := hall [.cacheFunctions [(regMatch, regMatch.getTags)] "Utilities" "apps.Utilities"]
    "Utilities" "conditions.regMatch" .action
  apply h.notNone
  with_unfolding_all rfl

end Walkoff.Analysis
