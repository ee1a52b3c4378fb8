import PayOnce.Service.Call
/-!
An idempotency cache in memory. The first value of a key stays until it expires; an entry is live
strictly before the instant of its expiry.
-/

namespace PayOnce

/-- A value and the instant from which it counts as gone. -/
structure CacheEntry where
  value : String
  expiresAt : Instant
deriving DecidableEq, Repr

/-- The entries by key, and how often the cache was called. -/
structure MemoryCache where
  entries : List (String × CacheEntry) := []
  calls : Nat := 0
deriving DecidableEq, Repr

namespace MemoryCache

/-- The longest time to live: the largest number of milliseconds of 64 bits with sign. -/
def longestTtl : Span :=
  .ofMillis (Nat.pow 2 63 - 1)

/-- The entry of a key, expired or not. -/
def find? (c : MemoryCache) (key : String) : Option CacheEntry :=
  c.entries.lookup key

/-- The value that a key has at an instant. -/
def peek (c : MemoryCache) (now : Instant) (key : String) : Option String :=
  match c.find? key with
  | some e => if now.before e.expiresAt then some e.value else none
  | none => none

/-- The entries without those of a key. -/
def without (c : MemoryCache) (key : String) : List (String × CacheEntry) :=
  c.entries.filter (·.1 != key)

/-- Gives a key an entry, in place of the one it has. -/
def put (c : MemoryCache) (key : String) (e : CacheEntry) : MemoryCache :=
  { c with entries := (key, e) :: c.without key }

/-- Gives a key a value for a day, whatever it has. -/
def insert (c : MemoryCache) (now : Instant) (key value : String) : MemoryCache :=
  c.put key ⟨value, now.plus (.ofDays 1)⟩

/-- Counts a call. -/
def counted (c : MemoryCache) : MemoryCache :=
  { c with calls := c.calls + 1 }

/-- The live value of a key; an expired entry is removed. -/
def get (c : MemoryCache) (now : Instant) (key : String) : Option String × MemoryCache :=
  match c.find? key with
  | some e =>
    if now.before e.expiresAt then (some e.value, c)
    else (none, { c with entries := c.without key })
  | none => (none, c)

/-- Gives a key a value, unless it has a live one. -/
def set (c : MemoryCache) (now : Instant) (key value : String) (ttl : Span) :
    Except CacheError Unit × MemoryCache :=
  if ttl > longestTtl then
    (.error (.unavailable
      "invalid ttl: Source duration value is out of range for the target type"), c)
  else if (c.peek now key).isSome then (.ok (), c)
  else (.ok (), c.put key ⟨value, now.plus ttl⟩)

/-- Removes the entry of a key. -/
def evict (c : MemoryCache) (key : String) : MemoryCache :=
  { c with entries := c.without key }

/-- Answers a call at an instant. -/
def handle (c : MemoryCache) (now : Instant) : (call : CacheCall) → call.Reply × MemoryCache
  | .get key => let (v, c) := c.counted.get now key; (.ok v, c)
  | .set key value ttl => c.counted.set now key value ttl
  | .evict key => (.ok (), c.counted.evict key)
  | .ping => (.ok (), c)

end MemoryCache

end PayOnce
