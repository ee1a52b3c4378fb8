import PayOnce.Text.Quoted
import PayOnce.Time.Span
import PayOnce.Uuid
/-!
What can go wrong: the errors of the domain, which callers act on, and the errors of the cache,
which the service survives.
-/

namespace PayOnce

open Text

/-- Why a value is refused. -/
inductive Invalid
  /-- A field that must not be blank is blank. -/
  | required (field : String)
  /-- An amount of money that is not positive. -/
  | amount (value : Int)
  /-- A requested amount that is not positive. -/
  | requestedAmount
  /-- A currency, trimmed and in upper case, that is not three letters. -/
  | currency (code : String)
  /-- A text that is no payment id. -/
  | paymentId (given : String)
  /-- A text that is no payment status. -/
  | status (given : String)
  /-- A refusal in a collaborator's own words. -/
  | stated (message : String)
deriving DecidableEq, Repr

/-- The wording of a refusal. -/
def Invalid.message : Invalid → String
  | .required field => field ++ " is required"
  | .amount value => "amount must be positive, got " ++ Decimal.intText value
  | .requestedAmount => "amount must be a positive integer"
  | .currency code => "currency must be a 3-letter code, got " ++ Quoted.text code
  | .paymentId given => "invalid payment id: " ++ Quoted.text given
  | .status given => "unknown payment status: " ++ Quoted.text given
  | .stated message => message

/-- An error of the domain. -/
inductive DomainError
  /-- A value is refused. -/
  | validation (cause : Invalid)
  /-- There is no payment with this id. -/
  | notFound (id : Uuid)
  /-- The stored payment is not the one that the new version follows. -/
  | versionConflict (id : Uuid) (attempted : Int)
  /-- A payment does not move between these statuses. -/
  | invalidTransition (source target : String)
  /-- Another payment holds the idempotency key. -/
  | duplicateKey (key : String)
  /-- Something outside the domain failed. -/
  | infrastructure (detail : String)
deriving DecidableEq, Repr

namespace DomainError

/-- The wording of an error. -/
def message : DomainError → String
  | validation cause => "validation error: " ++ cause.message
  | notFound id => "aggregate not found: " ++ id.text
  | versionConflict id attempted =>
    "version conflict on aggregate " ++ id.text ++ ": attempted to write version "
      ++ Decimal.intText attempted
  | invalidTransition source target =>
    "invalid status transition from " ++ source ++ " to " ++ target
  | duplicateKey key => "idempotency key already in use: " ++ key
  | infrastructure detail => "infrastructure error: " ++ detail

/-- May the same request succeed when it is simply made again? -/
def mayRetry : DomainError → Bool
  | versionConflict .. => true
  | _ => false

end DomainError

/-- An error of the idempotency cache. -/
inductive CacheError
  /-- The cache cannot be reached. -/
  | unavailable (detail : String)
  /-- An entry cannot be understood. -/
  | corrupt (detail : String)
  /-- A call did not end within its limit. -/
  | timeout (limit : Span)
deriving DecidableEq, Repr

/-- The wording of a cache error. -/
def CacheError.message : CacheError → String
  | .unavailable detail => "idempotency cache unavailable: " ++ detail
  | .corrupt detail => "corrupt idempotency cache entry: " ++ detail
  | .timeout limit => "idempotency cache call timed out after " ++ limit.text

end PayOnce
