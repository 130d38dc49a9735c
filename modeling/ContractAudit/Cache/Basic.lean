import ContractAudit.Text.CodePoint

/-!
# A cache that forgets

A store with room for a number of entries. An entry lives for a while after it was set. Setting and
counting first drop dead entries from the front, oldest set first, up to the first that lives. When
there is no room for a new key, the entry that was used least recently goes; a use is a set, or a
get of a living entry.
-/

namespace ContractAudit

/-- An entry of a cache. A stored nothing takes room and is never found. -/
structure Entry (α : Type) where
  key : Text
  value : Option α
  /-- When the entry was set. -/
  setAt : Rat
  /-- The number of its last use; later uses have greater numbers. -/
  used : Nat

/-- A cache whose entries stand in the order in which they were set. -/
structure Cache (α : Type) where
  capacity : Nat
  /-- How long an entry lives. -/
  ttl : Rat
  entries : List (Entry α)
  /-- The number of the next use. -/
  nextUse : Nat

/-- Why a cache cannot do what it is asked to. -/
inductive CacheError where
  | negativeCapacity
  | noRoom
  deriving DecidableEq, Repr

/-- The error in words. -/
def CacheError.message : CacheError → String
  | .negativeCapacity => "maxsize must be non-negative"
  | .noRoom => "value too large"

namespace Cache

variable {α : Type}

/-- A cache without entries. -/
def empty (capacity : Nat) (ttl : Rat) : Cache α :=
  ⟨capacity, ttl, [], 0⟩

/-- Whether an entry lives at a time. -/
def isAlive (c : Cache α) (now : Rat) (e : Entry α) : Bool :=
  now < e.setAt + c.ttl

/-- The cache without the dead entries at the front. -/
def expire (c : Cache α) (now : Rat) : Cache α :=
  { c with entries := c.entries.dropWhile fun e => !c.isAlive now e }

/-- The entry of a key, living or dead. -/
def find? (c : Cache α) (key : Text) : Option (Entry α) :=
  c.entries.find? fun e => e.key == key

/-- The living entry of a key. -/
def living? (c : Cache α) (now : Rat) (key : Text) : Option (Entry α) :=
  (c.find? key).filter (c.isAlive now)

/-- The cache without the entry of a key. -/
def erase (c : Cache α) (key : Text) : Cache α :=
  { c with entries := c.entries.filter fun e => e.key != key }

/-- The cache after a use of a key. -/
def touch (c : Cache α) (key : Text) : Cache α :=
  { c with
    entries := c.entries.map fun e => if e.key == key then { e with used := c.nextUse } else e
    nextUse := c.nextUse + 1 }

/-- The value of a key at a time, and the cache after the use. -/
def get (c : Cache α) (now : Rat) (key : Text) : Option α × Cache α :=
  match c.living? now key with
  | some e => (e.value, c.touch key)
  | none => (none, c)

/-- The entry that was used least recently. -/
def leastUsed? : List (Entry α) → Option (Entry α)
  | [] => none
  | e :: rest =>
    match leastUsed? rest with
    | none => some e
    | some m => if e.used ≤ m.used then some e else some m

/-- The cache with room for one more entry. -/
def makeRoom (c : Cache α) : Cache α :=
  if c.entries.length < c.capacity then c
  else
    match leastUsed? c.entries with
    | some e => c.erase e.key
    | none => c

/-- The cache with one more entry at the end. -/
def append (c : Cache α) (now : Rat) (key : Text) (value : Option α) : Cache α :=
  { c with entries := c.entries ++ [⟨key, value, now, c.nextUse⟩], nextUse := c.nextUse + 1 }

/-- The cache after a key is set at a time. -/
def set (c : Cache α) (now : Rat) (key : Text) (value : Option α) : Except CacheError (Cache α) :=
  let c := c.expire now
  if c.capacity == 0 then .error .noRoom
  else if (c.find? key).isSome then .ok ((c.erase key).append now key value)
  else .ok (c.makeRoom.append now key value)

/-- Removes a living entry; says whether it held a value. -/
def delete (c : Cache α) (now : Rat) (key : Text) : Bool × Cache α :=
  match c.living? now key with
  | some e => (e.value.isSome, c.erase key)
  | none => (false, c)

/-- The cache without its entries. -/
def clear (c : Cache α) : Cache α :=
  { c with entries := [] }

/-- The number of entries at a time, and the cache without those that were dropped for it. -/
def size (c : Cache α) (now : Rat) : Nat × Cache α :=
  let c := c.expire now
  (c.entries.length, c)

end Cache

end ContractAudit
