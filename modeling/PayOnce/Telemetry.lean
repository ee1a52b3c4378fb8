import PayOnce.Config
import PayOnce.Log.Filter
/-!
Setting up the log and the export of spans, once for the life of the service.
-/

namespace PayOnce

/-- Why telemetry cannot be set up. -/
inductive TelemetryFault
  /-- The endpoint for spans is no URI. -/
  | endpoint
  /-- Telemetry is set up already. -/
  | installed
deriving DecidableEq, Repr

/-- The fault as an error of the service, as far as its wording is the service's own. -/
def TelemetryFault.message : TelemetryFault → String
  | .endpoint => "telemetry error: span exporter"
  | .installed => "telemetry error"

/-- How log lines are written. -/
inductive LogFormat
  | json
  | text
deriving DecidableEq, Repr

/-- How many lines an entry for people goes over: its fields and those of the stretches of work
    around it are written as they are, except those in quotes. -/
def LogEntry.textLines (e : LogEntry) : Nat :=
  let shown := e.fields ++ e.spans.flatMap (·.shown)
  (shown.map fun field => field.2.toList.count '\n').foldl (· + ·) 1

/-- How many lines an entry goes over. -/
def LogFormat.linesOf : LogFormat → LogEntry → Nat
  | .json, _ => 1
  | .text, e => e.textLines

/-- The state of telemetry: nothing, or a format and a filter. -/
abbrev Telemetry := Option (LogFormat × Filter)

namespace Telemetry

/-- JSON for production, text for people elsewhere. -/
def formatOf (c : Config) : LogFormat :=
  if c.forProduction then .json else .text

/-- Can spans be sent there? -/
def isEndpoint (endpoint : String) : Bool :=
  (Http.Uri.ofText? endpoint).isSome

/-- Sets up telemetry. The endpoint is looked at before the log is taken. -/
def install (c : Config) (filter : Option String) (t : Telemetry) :
    Except TelemetryFault Telemetry :=
  if !c.otlpEndpoint.all isEndpoint then .error .endpoint
  else if t.isSome then .error .installed
  else .ok (some (formatOf c, (filter.map Filter.ofText).getD Filter.standard))

/-- The entries that are written. -/
def written (t : Telemetry) (entries : List LogEntry) : List LogEntry :=
  match t with
  | some (_, filter) => filter.apply entries
  | none => []

/-- How many lines are written for entries that pass. -/
def lineCount (t : Telemetry) (entries : List LogEntry) : Nat :=
  match t with
  | some (format, _) => (entries.map format.linesOf).foldl (· + ·) 0
  | none => 0

end Telemetry

end PayOnce
