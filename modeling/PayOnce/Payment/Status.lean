import PayOnce.Failure
import PayOnce.Json.Value
/-!
The statuses of a payment and the moves between them.
-/

namespace PayOnce

/-- Where a payment stands. -/
inductive Status
  | pending
  | processing
  | completed
  | failed
deriving DecidableEq, Repr

namespace Status

/-- All statuses. -/
def all : List Status :=
  [pending, processing, completed, failed]

/-- The name under which a status is stored and shown. -/
def name : Status → String
  | pending => "PENDING"
  | processing => "PROCESSING"
  | completed => "COMPLETED"
  | failed => "FAILED"

/-- The status with a name. -/
def ofName? (s : String) : Option Status :=
  all.find? (·.name == s)

/-- The status with a name; any other text is refused. -/
def ofName (s : String) : Except DomainError Status :=
  match ofName? s with
  | some status => .ok status
  | none => .error (.validation (.status s))

/-- A payment is taken up for processing, and processing ends well or not. -/
def canMoveTo : Status → Status → Bool
  | pending, processing => true
  | processing, completed => true
  | processing, failed => true
  | _, _ => false

/-- The statuses that a status may move to. -/
def next (s : Status) : List Status :=
  all.filter s.canMoveTo

/-- The JSON form of a status. -/
def toJson (s : Status) : Json.Value :=
  .text s.name

end Status

end PayOnce
