import Walkoff.Library.OrderedDict
import Walkoff.Model.PyVal

/-!
# Accumulators

The accumulator of an execution maps the ids of its actions, branches and environment
variables to what they left behind. The in-memory accumulator is a dictionary keyed by the
objects themselves; the external one keeps pickled values in the cache under the text of
the key, so that it survives the worker thread.
-/

set_option autoImplicit false

namespace Walkoff.Model

open Walkoff.Library (OrderedDict)

/-- A Python object used as a key: a `UUID` read from the database or a text. -/
inductive Key where
  | uuid (u : UUID)
  | text (s : String)
  deriving DecidableEq, Repr

/-- `str(key)`. -/
def Key.str : Key → String
  | .uuid u => u.str
  | .text s => s

/-- The two entries of `accumulator_lookup`. -/
inductive AccumulatorType where
  | memory
  | external
  deriving DecidableEq, Repr

/-- An accumulator of either type with its entries. -/
structure Accumulator where
  type : AccumulatorType
  entries : OrderedDict Key PyVal
  deriving Repr

namespace Accumulator

/-- `format_key`: the external accumulator files a value under the text of its key. -/
def formatKey (type : AccumulatorType) (key : Key) : Key :=
  match type with
  | .memory => key
  | .external => .text key.str

/-- `accumulator[key]`; `none` is the `KeyError`. -/
def getItem (self : Accumulator) (key : Key) : Option PyVal :=
  OrderedDict.get? (formatKey self.type key) self.entries

/-- `accumulator[key] = value`: the external accumulator pickles the value first. -/
def setItem (self : Accumulator) (key : Key) (value : PyVal) : Except Exn Accumulator :=
  if self.type = .external ∧ !value.picklable then throw .picklingError
  else pure { self with entries := OrderedDict.set (formatKey self.type key) value self.entries }

/-- `accumulator.update(items)` for values that pickle. -/
def update (self : Accumulator) (items : List (Key × PyVal)) : Accumulator :=
  { self with
    entries := OrderedDict.update self.entries
      (items.map fun item => (formatKey self.type item.1, item.2)) }

/-- `bool(accumulator)`: whether it holds anything. -/
def truthy (self : Accumulator) : Bool :=
  !self.entries.isEmpty

/-- `accumulator.clear()`. -/
def clear (self : Accumulator) : Accumulator :=
  { self with entries := [] }

/-- `str(key)` of a key as `items` gives it: the external accumulator gives the keys of the cache,
with the prefix of the execution. -/
def itemKey (type : AccumulatorType) (executionId : UUID) (key : Key) : String :=
  match type with
  | .memory => key.str
  | .external => "accumulator:" ++ executionId.str ++ ":" ++ key.str

/-- `{str(key): value for key, value in accumulator.items()}`. -/
def asJson (self : Accumulator) (executionId : UUID) : PyVal :=
  .dict (self.entries.map fun item => (itemKey self.type executionId item.1, item.2))

/-- Ids are filed under different keys. -/
theorem formatKey_uuid_inj (type : AccumulatorType) {u v : UUID} :
    formatKey type (.uuid u) = formatKey type (.uuid v) ↔ u = v := by
  cases type with
  | memory => simp [formatKey]
  | external => simp [formatKey, Key.str, UUID.str_injective.eq_iff]

/-- An update keeps the type. -/
@[simp] theorem update_type (self : Accumulator) (items : List (Key × PyVal)) :
    (self.update items).type = self.type := rfl

/-- A stored value is read back, and every other id keeps its own. -/
theorem getItem_setItem {self acc : Accumulator} {u : UUID} {value : PyVal}
    (h : self.setItem (.uuid u) value = .ok acc) (v : UUID) :
    acc.getItem (.uuid v) = if v = u then some value else self.getItem (.uuid v) := by
  unfold setItem at h
  split at h
  · cases h
  · cases h
    simp only [getItem, OrderedDict.get?_set, formatKey_uuid_inj]

end Accumulator

end Walkoff.Model
