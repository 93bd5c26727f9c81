import Walkoff.Library.NestedDict

/-!
# The app cache

`walkoff.appgateway.appcache`: the functions of every app under their qualified names. A function
may carry the tags of actions, conditions and transforms in any mixture, and all three share one
table.
-/

set_option autoImplicit false

namespace Walkoff.Program

open Walkoff.Library

/-! ## What is cached -/

/-- `WalkoffTag`. -/
inductive WalkoffTag where
  | action
  | condition
  | transform
  deriving DecidableEq, Repr

/-- A function or a method, with its `__module__` and `__name__`, and the attributes that tag it. -/
structure TaggedFunction where
  identity : ℕ
  moduleName : String
  name : String
  isTagged : WalkoffTag → Bool

/-- `WalkoffTag.get_tags`. -/
def TaggedFunction.getTags (func : TaggedFunction) : List WalkoffTag :=
  [.action, .condition, .transform].filter func.isTagged

/-- A class, with those of its members that are functions, as `inspect.getmembers` lists them. -/
structure AppClass where
  moduleName : String
  name : String
  isWalkoffApp : Bool
  methods : List TaggedFunction

/-- A member of a module. -/
inductive ModuleMember where
  | cls (c : AppClass)
  | function (func : TaggedFunction)
  | other

/-- `_get_qualified_class_name`. -/
def AppClass.qualifiedName (appClass : AppClass) : String :=
  appClass.moduleName ++ "." ++ appClass.name

/-- `_get_qualified_function_name`. -/
def getQualifiedFunctionName (method : TaggedFunction) : Option AppClass → String
  | some cls => method.moduleName ++ "." ++ cls.name ++ "." ++ method.name
  | none => method.moduleName ++ "." ++ method.name

/-- `_strip_base_module_from_qualified_name`. -/
def stripBaseModule (qualifiedName baseModule : String) : String :=
  let base := baseModule.toList ++ ['.']
  if base <+: qualifiedName.toList then
    String.ofList (qualifiedName.toList.drop base.length)
  else qualifiedName

/-- What `appcache` raises. -/
inductive CacheError where
  | keyError (key : String)
  | unknownApp (app : String)
  | unknownAppAction (app name : String)
  | unknownCondition (app name : String)
  | unknownTransform (app name : String)
  deriving DecidableEq, Repr

/-- `AppCache.exception_lookup`. -/
def exceptionLookup : WalkoffTag → String → String → CacheError
  | .action => .unknownAppAction
  | .condition => .unknownCondition
  | .transform => .unknownTransform

/-! ## One app -/

/-- `FunctionEntry`. -/
structure FunctionEntry where
  run : TaggedFunction
  isBound : Bool
  tags : List WalkoffTag

/-- Every bound function of a table is a method of the class. -/
def BoundTo (main : Option AppClass) (functions : OrderedDict String FunctionEntry) : Prop :=
  ∀ item ∈ functions, item.2.isBound = true → ∃ cls, main = some cls ∧ item.2.run ∈ cls.methods

/-- `AppCacheEntry`. -/
structure AppCacheEntry where
  appName : String
  main : Option AppClass
  functions : OrderedDict String FunctionEntry
  nodup : functions.keys.Nodup
  bound : BoundTo main functions

/-- `clear_bound_functions`. -/
def clearBoundFunctions (functions : OrderedDict String FunctionEntry) :
    OrderedDict String FunctionEntry :=
  functions.filter fun item => !item.2.isBound

/-- `__cache_methods`: the entries it sets. -/
def methodEntries (appMethods : List TaggedFunction) (appClass : AppClass) (appPath : String) :
    List (String × FunctionEntry) :=
  appMethods.map fun method =>
    (stripBaseModule (getQualifiedFunctionName method (some appClass)) appPath,
      { run := method, isBound := true, tags := method.getTags })

/-- The functions after `cache_app_class`. -/
def classFunctions (main : Option AppClass) (functions : OrderedDict String FunctionEntry)
    (appClass : AppClass) (appPath : String) : OrderedDict String FunctionEntry :=
  (if main.isSome then clearBoundFunctions functions else functions).update
    (methodEntries (appClass.methods.filter fun method => method.getTags ≠ []) appClass appPath)

/-- The entries that `cache_functions` sets. -/
def functionEntries (functions : List (TaggedFunction × List WalkoffTag)) (appPath : String) :
    List (String × FunctionEntry) :=
  functions.map fun function => (stripBaseModule (getQualifiedFunctionName function.1 none) appPath,
    { run := function.1, isBound := false, tags := function.2 })

/-- Where bound functions are cleared, none is left. -/
theorem BoundTo.clear {main : Option AppClass} {functions : OrderedDict String FunctionEntry}
    (h : BoundTo main functions) :
    ∀ item ∈ (if main.isSome then clearBoundFunctions functions else functions),
      item.2.isBound = false := by
  intro item hitem
  cases main with
  | none =>
    refine Bool.eq_false_iff.mpr fun hbound => ?_
    obtain ⟨cls, hcls, -⟩ := h item hitem hbound
    cases hcls
  | some cls =>
    obtain ⟨-, hbound⟩ := List.mem_filter.mp hitem
    simpa using hbound

/-- The functions of a class are bound to it. -/
theorem BoundTo.classFunctions {main : Option AppClass}
    {functions : OrderedDict String FunctionEntry} (h : BoundTo main functions)
    (appClass : AppClass) (appPath : String) :
    BoundTo (some appClass) (classFunctions main functions appClass appPath) := by
  intro item hitem hbound
  rcases OrderedDict.mem_update hitem with hitem | hitem
  · exact absurd ((h.clear item hitem).symm.trans hbound) Bool.noConfusion
  · obtain ⟨method, hmethod, rfl⟩ := List.mem_map.mp hitem
    exact ⟨appClass, rfl, (List.mem_filter.mp hmethod).1⟩

/-- Functions of their own leave the others bound as they were. -/
theorem BoundTo.functionEntries {main : Option AppClass}
    {functions : OrderedDict String FunctionEntry} (h : BoundTo main functions)
    (added : List (TaggedFunction × List WalkoffTag)) (appPath : String) :
    BoundTo main (functions.update (functionEntries added appPath)) := by
  intro item hitem hbound
  rcases OrderedDict.mem_update hitem with hitem | hitem
  · exact h item hitem hbound
  · obtain ⟨function, -, rfl⟩ := List.mem_map.mp hitem
    cases hbound

/-- Clearing keeps the names distinct. -/
theorem nodup_keys_clearBoundFunctions {functions : OrderedDict String FunctionEntry}
    (h : functions.keys.Nodup) : (clearBoundFunctions functions).keys.Nodup :=
  h.sublist (List.filter_sublist.map Prod.fst)

namespace AppCacheEntry

/-- `AppCacheEntry(app_name)`. -/
def new (appName : String) : AppCacheEntry where
  appName := appName
  main := none
  functions := []
  nodup := List.nodup_nil
  bound := fun _ h => absurd h List.not_mem_nil

/-- `cache_app_class`. -/
def cacheAppClass (appClass : AppClass) (appPath : String) (self : AppCacheEntry) :
    AppCacheEntry where
  appName := self.appName
  main := some appClass
  functions := classFunctions self.main self.functions appClass appPath
  nodup := by
    apply OrderedDict.nodup_keys_update
    cases self.main with
    | none => exact self.nodup
    | some cls => exact nodup_keys_clearBoundFunctions self.nodup
  bound := self.bound.classFunctions appClass appPath

/-- `cache_functions`. -/
def cacheFunctions (functions : List (TaggedFunction × List WalkoffTag)) (appPath : String)
    (self : AppCacheEntry) : AppCacheEntry where
  appName := self.appName
  main := self.main
  functions := self.functions.update (functionEntries functions appPath)
  nodup := OrderedDict.nodup_keys_update self.nodup _
  bound := self.bound.functionEntries functions appPath

/-- `is_bound`. -/
def isBound (self : AppCacheEntry) (funcName : String) : Except CacheError Bool :=
  match OrderedDict.get? funcName self.functions with
  | some entry => pure entry.isBound
  | none => throw (.unknownAppAction self.appName funcName)

/-- `get_tagged_functions`. -/
def getTaggedFunctions (self : AppCacheEntry) (tag : WalkoffTag) : List String :=
  (self.functions.filter fun item => tag ∈ item.2.tags).map Prod.fst

/-- `get_run`; without a `return` it returns `None`. -/
def getRun (self : AppCacheEntry) (funcName : String) (functionType : WalkoffTag) :
    Except CacheError (Option TaggedFunction) :=
  match OrderedDict.get? funcName self.functions with
  | none => throw (.keyError funcName)
  | some funcEntry =>
    if functionType ∈ funcEntry.tags then pure (some funcEntry.run) else pure none

end AppCacheEntry

/-! ## All apps -/

/-- `AppCache._cache`. -/
abbrev AppCache :=
  OrderedDict String AppCacheEntry

namespace AppCache

/-- `_cache_app`. -/
def cacheApp (appClass : AppClass) (appName appPath : String) (self : AppCache) : AppCache :=
  self.change appName (.new appName) (.cacheAppClass appClass appPath)

/-- `cache_functions` of the entry of an app. -/
def cacheFunctions (functions : List (TaggedFunction × List WalkoffTag))
    (appName appPath : String) (self : AppCache) : AppCache :=
  self.change appName (.new appName) (.cacheFunctions functions appPath)

/-- The loop of `_cache_module`, with the global actions it collects. -/
def cacheMember (appName basePath : String)
    (state : AppCache × List (TaggedFunction × List WalkoffTag)) :
    ModuleMember → AppCache × List (TaggedFunction × List WalkoffTag)
  | .cls c =>
    if c.isWalkoffApp ∧ c.qualifiedName ≠ "apps.App" then
      (state.1.cacheApp c appName basePath, state.2)
    else state
  | .function func =>
    if func.getTags ≠ [] then (state.1, state.2 ++ [(func, func.getTags)]) else state
  | .other => state

/-- `_cache_module`. -/
def cacheModule (members : List ModuleMember) (appName appPath : String) (self : AppCache) :
    AppCache :=
  let basePath := appPath ++ "." ++ appName
  let (cache, globalActions) := members.foldl (cacheMember appName basePath) (self, [])
  if globalActions ≠ [] then cache.cacheFunctions globalActions appName basePath else cache

/-- `is_app_action_bound`. -/
def isAppActionBound (self : AppCache) (appName actionName : String) : Except CacheError Bool :=
  match OrderedDict.get? appName self with
  | none => throw (.unknownApp appName)
  | some appCache =>
    if appCache.functions = [] then throw (.unknownAppAction appName actionName)
    else appCache.isBound actionName

/-- `_get_function_type_names`. -/
def getFunctionTypeNames (self : AppCache) (appName : String) (functionType : WalkoffTag) :
    Except CacheError (List String) :=
  match OrderedDict.get? appName self with
  | none => throw (.unknownApp appName)
  | some appCache => pure (appCache.getTaggedFunctions functionType)

/-- `_get_function_type`. -/
def getFunctionType (self : AppCache) (appName functionName : String)
    (functionType : WalkoffTag) : Except CacheError (Option TaggedFunction) :=
  match OrderedDict.get? appName self with
  | none => throw (.unknownApp appName)
  | some appCache =>
    if appCache.functions = [] then throw (exceptionLookup functionType appName functionName)
    else
      match appCache.getRun functionName functionType with
      | .error (.keyError _) => throw (exceptionLookup functionType appName functionName)
      | result => result

end AppCache

/-- What can happen to the cache. -/
inductive CacheOp where
  | cacheApp (appClass : AppClass) (appName appPath : String)
  | cacheFunctions (functions : List (TaggedFunction × List WalkoffTag)) (appName appPath : String)
  | cacheModule (members : List ModuleMember) (appName appPath : String)
  | clear

/-- The cache after an operation. -/
def AppCache.serve (self : AppCache) : CacheOp → AppCache
  | .cacheApp appClass appName appPath => self.cacheApp appClass appName appPath
  | .cacheFunctions functions appName appPath => self.cacheFunctions functions appName appPath
  | .cacheModule members appName appPath => self.cacheModule members appName appPath
  | .clear => []

end Walkoff.Program
