import Walkoff.Library.Effect
import Walkoff.Library.Glob
import Walkoff.Library.OrderedDict
import Walkoff.Model.PyFormat
import Walkoff.Model.PyVal

/-!
# Accumulators in the cache

`ExternallyCachedAccumulator`: the entries of all executions lie in one cache, as pickled bytes
under keys that begin with the ID of the execution. Single entries are found by their keys, all
entries of an execution by a pattern.
-/

set_option autoImplicit false

namespace Walkoff.Program

open Walkoff.Library Walkoff.Model

/-! ## The cache -/

/-- The keys of the cache, with their bytes. -/
structure Cache where
  entries : OrderedDict String ByteArray
  nodup : entries.keys.Nodup

/-- What works on the cache. -/
abbrev CacheM :=
  EStateM Exn Cache

/-- What the cache answers: a text if the bytes can be decoded. -/
inductive CacheResponse where
  | bytes (value : ByteArray)
  | text (value : String)

/-- The order in which a scan comes by the keys. -/
structure ScanOrder where
  order : List String → List String
  perm : ∀ keys, (order keys).Perm keys

namespace RedisCacheAdapter

/-- `_decode_response`. -/
def decodeResponse (response : ByteArray) : CacheResponse :=
  match String.fromUTF8? response with
  | some text => .text text
  | none => .bytes response

/-- `set`. -/
def set (key : String) (value : ByteArray) : CacheM Unit := fun cache =>
  .ok () { entries := cache.entries.set key value,
           nodup := OrderedDict.nodup_keys_set cache.nodup value }

/-- `get`. -/
def get (key : String) : CacheM (Option CacheResponse) := fun cache =>
  .ok ((cache.entries.get? key).map decodeResponse) cache

/-- `delete`. -/
def delete (key : String) : CacheM Unit := fun cache =>
  .ok () { entries := cache.entries.pop key, nodup := OrderedDict.nodup_keys_pop cache.nodup }

/-- `exists`. -/
def hasEntry (key : String) : CacheM Bool := fun cache =>
  .ok (cache.entries.get? key).isSome cache

/-- `scan`. A key that is deleted is not come by again, and any other one still is, so it makes no
difference that the caller may delete the keys as they come. -/
def scan (pattern : String) (order : ScanOrder) : CacheM (List String) := fun cache =>
  .ok (order.order (cache.entries.keys.filter (Glob.matchGlob pattern))) cache

end RedisCacheAdapter

/-! ## Pickling -/

/-- `pickle`: it is lossless. What is read may be the bytes, or the text if they are one. -/
structure Pickle (V : Type) where
  dumps : V → ByteArray
  loads : CacheResponse → Except Exn V
  loads_bytes : ∀ value, loads (.bytes (dumps value)) = .ok value
  loads_text : ∀ value text, String.fromUTF8? (dumps value) = some text →
    loads (.text text) = .ok value

/-- `pickle.loads(self._cache.get(key))`; there may be no answer. -/
def Pickle.loadsResponse {V : Type} (pickle : Pickle V) : Option CacheResponse → Except Exn V
  | some response => pickle.loads response
  | none => throw .typeError

/-! ## The accumulator of an execution -/

/-- `ExternallyCachedAccumulator`: the template of its keys and the pattern they match. -/
structure ExternallyCachedAccumulator where
  key : String
  scanKey : String

/-- `_cache_separator`. -/
def cacheSeparator : Char :=
  ':'

/-- `template.format(value)`. -/
def formatTemplate (template value : String) : Except Exn String :=
  match PyFormat.format template value with
  | some text => pure text
  | none => throw .valueError

namespace ExternallyCachedAccumulator

/-- `__init__` and `set_key`, with the prefix `accumulator`. -/
def new (workflowExecutionId : String) : Except Exn ExternallyCachedAccumulator := do
  let key := "accumulator" ++ cacheSeparator.toString ++ workflowExecutionId ++
    cacheSeparator.toString
  let key := key ++ "\x7b\x7d"
  let scanKey ← formatTemplate key "*"
  pure { key, scanKey }

/-- `extract_key`: what is behind the last separator. -/
def extractKey (key : String) : String :=
  String.ofList (key.toList.reverse.takeWhile (· ≠ cacheSeparator)).reverse

variable {κ V : Type} (str : κ → String) (pickle : Pickle V)
variable (self : ExternallyCachedAccumulator)

/-- `format_key`. -/
def formatKey (key : κ) : CacheM String :=
  lift (formatTemplate self.key (str key))

/-- `__setitem__`. -/
def setItem (key : κ) (value : V) : CacheM Unit := do
  let pickledValue := pickle.dumps value
  RedisCacheAdapter.set (← self.formatKey str key) pickledValue

/-- `pickle.loads(self._cache.get(key))`. -/
def load (key : String) : CacheM V := do
  lift (pickle.loadsResponse (← RedisCacheAdapter.get key))

/-- `__getitem__`. -/
def getItem (item : κ) : CacheM V := do
  if ← RedisCacheAdapter.hasEntry (← self.formatKey str item) then
    load pickle (← self.formatKey str item)
  else throw .keyError

/-- `__len__`. -/
def len (order : ScanOrder) : CacheM ℕ := do
  let keys ← RedisCacheAdapter.scan (← lift (formatTemplate self.key "*")) order
  pure keys.length

/-- `__delitem__`. -/
def delItem (key : κ) : CacheM Unit := do
  let key ← self.formatKey str key
  if ← RedisCacheAdapter.hasEntry key then RedisCacheAdapter.delete key
  else throw .keyError

/-- `keys`, and `__iter__`. -/
def keys (order : ScanOrder) : CacheM (List String) :=
  RedisCacheAdapter.scan self.scanKey order

/-- `clear`. -/
def clear (order : ScanOrder) : CacheM Unit := do
  (← self.keys order).forM RedisCacheAdapter.delete

/-- `has_key`, and `__contains__`. -/
def contains (item : κ) : CacheM Bool := do
  RedisCacheAdapter.hasEntry (← self.formatKey str item)

/-- `update`: the dictionaries and then the keyword arguments. -/
def update (args : List (List (κ × V))) (kwargs : List (κ × V)) : CacheM Unit := do
  args.forM fun arg => arg.forM fun item => self.setItem str pickle item.1 item.2
  kwargs.forM fun item => self.setItem str pickle item.1 item.2

/-- `values`. -/
def values (order : ScanOrder) : CacheM (List V) := do
  (← RedisCacheAdapter.scan self.scanKey order).mapM (load pickle)

/-- `items`. -/
def items (order : ScanOrder) : CacheM (List (String × V)) := do
  (← RedisCacheAdapter.scan self.scanKey order).mapM fun key =>
    return (key, ← load pickle key)

/-- `pop`: the arguments are the key and what follows it. -/
def pop (key : κ) (more : List V) : CacheM V := do
  if more.length + 1 > 2 then
    throw .typeError
  let key ← self.formatKey str key
  if ← RedisCacheAdapter.hasEntry key then
    let ret ← load pickle key
    RedisCacheAdapter.delete key
    pure ret
  else
    match more with
    | value :: _ => pure value
    | [] => throw .keyError

end ExternallyCachedAccumulator

/-! ## What is done with an accumulator -/

/-- An operation on an accumulator. -/
inductive AccumulatorOp (κ V : Type) where
  | set (key : κ) (value : V)
  | get (key : κ)
  | delete (key : κ)
  | contains (key : κ)
  | update (args : List (List (κ × V))) (kwargs : List (κ × V))
  | pop (key : κ) (more : List V)
  | len (order : ScanOrder)
  | clear (order : ScanOrder)
  | keys (order : ScanOrder)
  | values (order : ScanOrder)
  | items (order : ScanOrder)

/-- What an operation shows. -/
inductive Observed (V : Type) where
  | nothing
  | value (value : V)
  | found (found : Bool)
  | length (length : ℕ)
  | keys (keys : List String)
  | values (values : List V)
  | items (items : List (String × V))

namespace ExternallyCachedAccumulator

/-- An operation. -/
def serve {κ V : Type} (str : κ → String) (pickle : Pickle V)
    (self : ExternallyCachedAccumulator) : AccumulatorOp κ V → CacheM (Observed V)
  | .set key value => do
    self.setItem str pickle key value
    pure .nothing
  | .get key => return .value (← self.getItem str pickle key)
  | .delete key => do
    self.delItem str key
    pure .nothing
  | .contains key => return .found (← self.contains str key)
  | .update args kwargs => do
    self.update str pickle args kwargs
    pure .nothing
  | .pop key more => return .value (← self.pop str pickle key more)
  | .len order => return .length (← self.len order)
  | .clear order => do
    self.clear order
    pure .nothing
  | .keys order => return .keys (← self.keys order)
  | .values order => return .values (← self.values pickle order)
  | .items order => return .items (← self.items pickle order)

end ExternallyCachedAccumulator

/-- The end of a computation, with the cache behind it. -/
def outcome {α : Type} : EStateM.Result Exn Cache α → Except Exn α × Cache
  | .ok a cache => (.ok a, cache)
  | .error e cache => (.error e, cache)

/-- What the operations of a run show, with the accumulators they were on. -/
def serveAll {ι κ V : Type} (str : κ → String) (pickle : Pickle V)
    (accumulators : ι → ExternallyCachedAccumulator) :
    List (ι × AccumulatorOp κ V) → Cache → List (ι × Except Exn (Observed V))
  | [], _ => []
  | (i, op) :: ops, cache =>
    let shown := outcome ((accumulators i).serve str pickle op cache)
    (i, shown.1) :: serveAll str pickle accumulators ops shown.2

end Walkoff.Program
