import PayOnce.Store.Sql
/-!
A scripted database: it replies as it is told, to each statement in turn, and keeps what was sent.
-/

namespace PayOnce

/-- The replies to come, `none` for a plain success, and the statements sent so far, the latest
    first. -/
structure SqlScript where
  replies : List (Option SqlReply) := []
  sent : List Statement := []
deriving Repr

namespace SqlScript

/-- The reply to a statement that plainly succeeds: one row written, no row found. -/
def success : Statement → SqlReply
  | .upsert _ | .insertOutbox _ => .affected 1
  | .selectByKey _ | .selectById _ | .probe => .found none
  | .begin | .commit | .rollback => .affected 0

/-- A scripted reply, if it fits the statement; otherwise a plain success. -/
def fit (s : Statement) (r : SqlReply) : SqlReply :=
  match s, r with
  | _, .failed e => .failed e
  | .upsert _, .affected n | .insertOutbox _, .affected n => .affected n
  | .selectByKey _, .found row | .selectById _, .found row | .probe, .found row => .found row
  | s, _ => success s

/-- Replies to a statement. Only a rollback leaves the script as it is. -/
def reply (script : SqlScript) (s : Statement) : SqlReply × SqlScript :=
  let noted := { script with sent := s :: script.sent }
  match s, script.replies with
  | .rollback, _ => (success .rollback, noted)
  | s, [] => (success s, noted)
  | s, r :: rest => ((r.map (fit s)).getD (success s), { noted with replies := rest })

end SqlScript

/-- Runs a session against a scripted database. -/
def Session.runScripted {α : Type} : Session α → SqlScript → α × SqlScript
  | done a, script => (a, script)
  | send s next, script =>
    let (r, script) := script.reply s
    (next r).runScripted script

/-- An instant as the database keeps it: whole microseconds, cut off toward the start of 2000, with
    a leap second running into the next second. -/
def Instant.toMicros (t : Instant) : Instant :=
  let start : Int := 946684800
  let nanos := (t.secs - start) * 1000000000 + t.nanos
  let micros := nanos.tdiv 1000
  ⟨start + micros / 1000000, (micros % 1000000).toNat * 1000⟩

end PayOnce
