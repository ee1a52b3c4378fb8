import PayOnce.Failure
import PayOnce.Json.Value
import PayOnce.Time.Instant
/-!
The outbox: a row for every event that has happened, written together with the state that the event
led to.
-/

namespace PayOnce

/-- A type of events that happen to aggregates. -/
class DomainEvent (ε : Type) where
  /-- The name of the kind of event. -/
  eventType : ε → String
  /-- The aggregate that the event happened to. -/
  aggregateId : ε → Uuid
  /-- When the event happened. -/
  occurredAt : ε → Instant
  /-- The facts of the event, or why they cannot be written down. -/
  payload : ε → Except String Json.Value

/-- A row of the outbox. -/
structure OutboxRow where
  aggregateId : Uuid
  eventType : String
  payload : Json.Value
  occurredAt : Instant
deriving Repr

/-- The row for an event. -/
def OutboxRow.ofEvent {ε : Type} [DomainEvent ε] (e : ε) : Except DomainError OutboxRow :=
  match DomainEvent.payload e with
  | .ok payload => .ok
    { aggregateId := DomainEvent.aggregateId e
      eventType := DomainEvent.eventType e
      payload
      occurredAt := DomainEvent.occurredAt e }
  | .error why => .error (.infrastructure
      ("serialize " ++ DomainEvent.eventType e ++ " event payload: " ++ why))

end PayOnce
