import PayOnce.Outbox
import PayOnce.Service.Initiation
/-!
An event and a command that have nothing to do with payments, to try the outbox and the defaults of
commands with.
-/

namespace PayOnce.Lab

/-- An event with any payload, or with a reason why there is none. -/
structure SampleEvent where
  id : Uuid
  time : Instant
  payload : Except String Json.Value

instance : DomainEvent SampleEvent where
  eventType _ := "sample.happened"
  aggregateId := SampleEvent.id
  occurredAt := SampleEvent.time
  payload := SampleEvent.payload

/-- A command without an idempotency key. -/
structure SampleCommand where
  id : Uuid
deriving DecidableEq, Repr

instance : Command SampleCommand where
  commandType _ := "sample.do"
  correlationId := SampleCommand.id

end PayOnce.Lab
