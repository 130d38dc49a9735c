import ContractAudit.Cache.Basic
import ContractAudit.Clock
import ContractAudit.Log
import ContractAudit.Text.Case

/-!
# Caches of results

A cache of results is a cache with a name whose keys do not depend on letter case. Everything that
is done to it is logged with the key as it was given.
-/

namespace ContractAudit

/-- A cache with a name. -/
structure ResultCache (α : Type) where
  name : Text
  cache : Cache α

namespace ResultCache

variable {α : Type}

/-- The key of an address. -/
def keyOf (address : Text) : Text :=
  address.lower

/-- What a cache logs about itself. -/
def record (level : LogLevel) (name : Text) (what : Text) : LogRecord :=
  ⟨level, .cache, Text.ofString "Cache '" ++ name ++ Text.ofString "' " ++ what⟩

/-- An empty cache for so many entries, with what is logged. -/
def make (name : Text) (capacity : Int) (ttl : Seconds) :
    Except CacheError (ResultCache α × LogRecord) :=
  if capacity < 0 then .error .negativeCapacity
  else
    .ok (⟨name, Cache.empty capacity.toNat ttl.toRat⟩,
      record .info name (Text.ofString ("initialized (maxsize=" ++ toString capacity ++ ", ttl="
        ++ ttl.shown ++ "s)")))

/-- The value of an address. -/
def get (c : ResultCache α) (now : Rat) (address : Text) :
    Option α × ResultCache α × LogRecord :=
  let (value, cache) := c.cache.get now (keyOf address)
  let what := if value.isSome then "hit" else "miss"
  (value, { c with cache := cache },
    record .debug c.name (Text.ofString (what ++ " for key: ") ++ address))

/-- Sets an address. -/
def set (c : ResultCache α) (now : Rat) (address : Text) (value : Option α) :
    Except CacheError (ResultCache α × LogRecord) :=
  match c.cache.set now (keyOf address) value with
  | .error e => .error e
  | .ok cache =>
    .ok ({ c with cache := cache },
      record .debug c.name (Text.ofString "entry set for key: " ++ address))

/-- Removes an address; says whether it had a value. -/
def delete (c : ResultCache α) (now : Rat) (address : Text) : Bool × ResultCache α × LogRecord :=
  let (removed, cache) := c.cache.delete now (keyOf address)
  (removed, { c with cache := cache },
    record .debug c.name (Text.ofString "entry deleted for key: " ++ address))

/-- Removes everything. -/
def clear (c : ResultCache α) : ResultCache α × LogRecord :=
  ({ c with cache := c.cache.clear }, record .debug c.name "cleared")

/-- The number of entries. -/
def size (c : ResultCache α) (now : Rat) : Nat × ResultCache α :=
  let (n, cache) := c.cache.size now
  (n, { c with cache := cache })

end ResultCache

end ContractAudit
