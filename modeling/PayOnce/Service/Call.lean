import PayOnce.Payment.View
/-!
The calls that the service makes to its two collaborators, the payment store and the idempotency
cache, and the answers that they may give.
-/

namespace PayOnce

/-- A call to the payment store. -/
inductive StoreCall
  /-- Look for the payment that holds a key. -/
  | findByKey (key : String)
  /-- Fetch the payment with an id. -/
  | findById (id : Uuid)
  /-- Write a payment and its buffered events in one piece. -/
  | save (p : Payment)
  /-- Ask for a sign of life. -/
  | ping
deriving DecidableEq, Repr

/-- What the store answers. A save also gives the payment back, without its events if they were
    written. -/
abbrev StoreCall.Reply : StoreCall → Type
  | .findByKey _ => Except DomainError (Option Payment)
  | .findById _ => Except DomainError Payment
  | .save _ => Except DomainError (List OutboxRow) × Payment
  | .ping => Except DomainError Unit

/-- A call to the idempotency cache. -/
inductive CacheCall
  /-- Read the live entry of a key. -/
  | get (key : String)
  /-- Write an entry that expires after a while, unless the key has a live one. -/
  | set (key value : String) (ttl : Span)
  /-- Remove the entry of a key. -/
  | evict (key : String)
  /-- Ask for a sign of life. -/
  | ping
deriving DecidableEq, Repr

/-- What the cache answers. -/
abbrev CacheCall.Reply : CacheCall → Type
  | .get _ => Except CacheError (Option String)
  | .set .. => Except CacheError Unit
  | .evict _ => Except CacheError Unit
  | .ping => Except CacheError Unit

end PayOnce
