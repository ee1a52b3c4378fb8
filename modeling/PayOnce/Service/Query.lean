import PayOnce.Service.Program
/-!
Reading: the view of a payment, and whether the collaborators are there.
-/

namespace PayOnce

/-- The id by which a text names a payment, in any of the spellings of an identifier. -/
def readPaymentId (text : String) : Except DomainError Uuid :=
  match Uuid.ofText? text with
  | some id => .ok id
  | none => .error (.validation (.paymentId text))

/-- The view of the payment with an id. -/
def viewPayment (id : Uuid) : Program (Except DomainError PaymentView) := do
  match ← .callStore (.findById id) with
  | .ok p => return .ok (PaymentView.ofPayment p)
  | .error e => return .error e

/-- How long both collaborators together may take to show that they are there. -/
def readinessLimit : Span :=
  .ofSeconds 3

/-- Asks the store and then the cache for a sign of life, both within one limit; tells what is
    missing. -/
def askReadiness : Program (Except String Unit) := do
  let late := "dependencies did not answer within " ++ readinessLimit.text
  let started ← .query .elapsed
  match ← .callStoreWithin readinessLimit .ping with
  | none => return .error late
  | some (.error e) => return .error ("database: " ++ e.message)
  | some (.ok ()) =>
    let now ← .query .elapsed
    match ← .callCacheWithin (readinessLimit - (now - started)) .ping with
    | none => return .error late
    | some (.error e) => return .error ("cache: " ++ e.message)
    | some (.ok ()) => return .ok ()

end PayOnce
