import PayOnce.Cache.Memory
import PayOnce.Service.Run
import PayOnce.Store.Memory
import PayOnce.Store.Script
/-!
Collaborators for experiments: a store and a cache that can be switched between ways of answering
and that take faults from queues, one queue for each kind of call.
-/

namespace PayOnce.Lab

/-- What happens to a call. -/
inductive Fault (ε : Type)
  /-- Nothing out of the ordinary. -/
  | ok
  /-- It never ends and has no effect. -/
  | hang
  /-- It takes a while before it has its effect and ends. -/
  | delay (d : Span)
  /-- It has its effect, but never ends. -/
  | commitThenHang
  /-- It ends with an error and has no effect. -/
  | fail (e : ε)
  /-- It finds nothing, or does nothing and ends well. -/
  | miss
  /-- It panics. -/
  | panic (p : PanicPayload)
deriving DecidableEq, Repr

/-- How a call goes under a fault, given how it goes without, how it fails, and what it answers when
    it finds nothing. -/
def Fault.conduct {ε σ ρ : Type} (f : Fault ε) (before : σ) (normal : Conduct σ ρ)
    (failed : ε → ρ) (missed : Option ρ) : Conduct σ ρ :=
  match f with
  | .ok => normal
  | .hang => .silent before
  | .delay d => { normal with underway := before, delay := d + normal.delay }
  | .commitThenHang => .silent normal.settled
  | .fail e => .immediate before before (failed e)
  | .miss => match missed with
    | some r => .immediate before before r
    | none => normal
  | .panic p => ⟨before, 0, before, .panic p⟩

/-! ## The store -/

/-- The kinds of calls to the store that take faults of their own. -/
inductive StoreTarget
  | save
  | findKey
  | findId
  | ping
deriving DecidableEq, Repr

/-- The kind of a call. -/
def StoreTarget.of : StoreCall → StoreTarget
  | .findByKey _ => findKey
  | .findById _ => findId
  | .save _ => save
  | .ping => ping

/-- Who answers calls to the store. -/
inductive StoreMode
  | memory
  | failing
  | hanging
  | sql
deriving DecidableEq, Repr

/-- The store of an experiment. -/
structure StoreSide where
  memory : MemoryStore := {}
  script : SqlScript := {}
  mode : StoreMode := .memory
  faults : StoreTarget → List (Fault DomainError) := fun _ => []

/-- How a call to the store fails. -/
def failedReply (e : DomainError) : (c : StoreCall) → c.Reply
  | .findByKey _ => .error e
  | .findById _ => .error e
  | .save p => (.error e, p)
  | .ping => .error e

/-- What a call to the store answers when it finds nothing. -/
def missedReply : (c : StoreCall) → Option c.Reply
  | .findByKey _ => some (.ok none)
  | .ping => some (.ok ())
  | .findById _ => none
  | .save _ => none

namespace StoreSide

/-- How a call goes without a fault. -/
def normal (s : StoreSide) (c : StoreCall) : Conduct StoreSide c.Reply :=
  match s.mode with
  | .memory =>
    let (r, memory) := s.memory.handle c
    .immediate s { s with memory } r
  | .failing => .immediate s s (failedReply (.infrastructure "connection refused") c)
  | .hanging => .silent s
  | .sql =>
    let (r, script) := (SqlStore.handle c).runScripted s.script
    .immediate s { s with script } r

/-- How a call goes: the next fault of its kind decides. -/
def conduct (s : StoreSide) (c : StoreCall) : Conduct StoreSide c.Reply :=
  match s.faults (.of c) with
  | [] => s.normal c
  | f :: rest =>
    let s := { s with faults := fun t => if t = .of c then rest else s.faults t }
    f.conduct s (s.normal c) (failedReply · c) (missedReply c)

/-- Queues faults for a kind of calls. -/
def addFaults (s : StoreSide) (t : StoreTarget) (fs : List (Fault DomainError)) : StoreSide :=
  { s with faults := fun u => if u = t then s.faults u ++ fs else s.faults u }

end StoreSide

/-! ## The cache -/

/-- The kinds of calls to the cache. -/
inductive CacheTarget
  | get
  | set
  | evict
  | ping
deriving DecidableEq, Repr

/-- The kind of a call. -/
def CacheTarget.of : CacheCall → CacheTarget
  | .get _ => get
  | .set .. => set
  | .evict _ => evict
  | .ping => ping

/-- Who answers calls to the cache. -/
inductive CacheMode
  | memory
  | unavailable
  | hanging
deriving DecidableEq, Repr

/-- The cache of an experiment, and the clock that its entries expire by. -/
structure CacheSide where
  memory : MemoryCache := {}
  clock : Instant
  mode : CacheMode := .memory
  faults : CacheTarget → List (Fault CacheError) := fun _ => []

/-- How a call to the cache fails. -/
def failedCacheReply (e : CacheError) : (c : CacheCall) → c.Reply
  | .get _ => .error e
  | .set .. => .error e
  | .evict _ => .error e
  | .ping => .error e

/-- What a call to the cache answers when it finds or does nothing. -/
def missedCacheReply : (c : CacheCall) → c.Reply
  | .get _ => .ok none
  | .set .. => .ok ()
  | .evict _ => .ok ()
  | .ping => .ok ()

namespace CacheSide

/-- How a call goes without a fault. -/
def normal (s : CacheSide) (c : CacheCall) : Conduct CacheSide c.Reply :=
  match s.mode with
  | .memory =>
    let (r, memory) := s.memory.handle s.clock c
    .immediate s { s with memory } r
  | .unavailable => .immediate s s (failedCacheReply (.unavailable "connection refused") c)
  | .hanging => .silent s

/-- How a call goes: the next fault of its kind decides. -/
def conduct (s : CacheSide) (c : CacheCall) : Conduct CacheSide c.Reply :=
  match s.faults (.of c) with
  | [] => s.normal c
  | f :: rest =>
    let s := { s with faults := fun t => if t = .of c then rest else s.faults t }
    f.conduct s (s.normal c) (failedCacheReply · c) (some (missedCacheReply c))

/-- Queues faults for a kind of calls. -/
def addFaults (s : CacheSide) (t : CacheTarget) (fs : List (Fault CacheError)) : CacheSide :=
  { s with faults := fun u => if u = t then s.faults u ++ fs else s.faults u }

end CacheSide

end PayOnce.Lab
