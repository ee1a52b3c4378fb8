import PayOnce.Http.Server
import PayOnce.Json.Double
import PayOnce.Signal
/-!
The metrics of the service: counted outcomes and requests, and how long requests take. Records are
gathered into points, one for each set of attributes.
-/

namespace PayOnce

open Text

/-- What a point is about: an object with the names of its attributes in order. -/
abbrev Attributes := Json.Value

/-- A number of records. -/
structure CountPoint where
  attributes : Attributes
  value : Nat
deriving Repr

/-- How long a number of requests took: in all, at least, at most, and by classes. -/
structure DurationPoint where
  attributes : Attributes
  count : Nat
  sum : Json.Double
  min : Json.Double
  max : Json.Double
  classes : List Nat
deriving Repr

/-- What a metric is called. -/
structure MetricTitle where
  name : String
  description : String
  unit : String
deriving DecidableEq, Repr

/-- A metric with its points. -/
inductive Metric
  | counts (title : MetricTitle) (points : List CountPoint)
  | durations (title : MetricTitle) (points : List DurationPoint)
deriving Repr

/-- A request, and how long it took. -/
structure RequestRecord where
  row : Http.MetricsRow
  elapsed : Span
deriving DecidableEq, Repr

namespace Metrics

/-- The service, as the source of its metrics. -/
def scope : String := "payflow-api"

/-- Outcomes of initiations. -/
def initiationsTitle : MetricTitle :=
  ⟨"payflow.payment_initiations", "Payment initiation outcomes, by outcome", ""⟩

/-- Requests. -/
def requestsTitle : MetricTitle :=
  ⟨"payflow.http.requests", "HTTP requests, by method, route and status code", ""⟩

/-- How long requests take. -/
def durationsTitle : MetricTitle :=
  ⟨"payflow.http.request_duration", "HTTP request duration, by method and route", "s"⟩

/-- The upper bounds of the classes of durations. A duration at a bound belongs below it. -/
def bounds : List Span :=
  [1, 5, 10, 25, 50, 100, 250, 500, 1000, 2500, 5000].map Span.ofMillis

/-- Gathers records by their attributes, in the order of the attributes' texts. -/
def gather {α : Type} (records : List (Attributes × α)) : List (Attributes × List α) :=
  let add (groups : List (Attributes × List α)) (r : Attributes × α) :=
    if groups.any fun g => g.1.render == r.1.render then
      groups.map fun g => if g.1.render == r.1.render then (g.1, g.2 ++ [r.2]) else g
    else groups ++ [(r.1, [r.2])]
  (records.foldl add []).mergeSort fun a b => a.1.render ≤ b.1.render

/-- Counts records by their attributes. -/
def counts (records : List Attributes) : List CountPoint :=
  (gather (records.map (·, ()))).map fun (attributes, rs) => ⟨attributes, rs.length⟩

/-- The number zero. -/
def zero : Json.Double := ⟨0, -1074⟩

/-- The sum of two numbers, rounded. -/
def plus (x y : Json.Double) : Json.Double :=
  let (a, b) := x.ratio
  let (c, d) := y.ratio
  (Json.Double.ofRatio? (a * d + c * b) (b * d)).getD zero

/-- A duration in seconds: the whole seconds and the fraction, each rounded, and their sum. -/
def inSeconds (d : Span) : Json.Double :=
  plus ((Json.Double.ofRatio? d.seconds 1).getD zero)
    ((Json.Double.ofRatio? (d % 1000000000) 1000000000).getD zero)

/-- A number with nine decimal places, a tie going to the even digit. -/
def nineDecimals (x : Json.Double) : String :=
  let (a, b) := x.ratio
  let n := Json.Double.nearest (a * 1000000000) b
  Decimal.text (n / 1000000000) ++ "." ++ String.ofList (Decimal.padded 9 (n % 1000000000))

/-- A bound in seconds. -/
def boundText (b : Span) : String :=
  let fraction := (Decimal.padded 3 (b.millis % 1000)).reverse.dropWhile (· == '0')
  Decimal.text b.seconds
    ++ if fraction.isEmpty then "" else "." ++ String.ofList fraction.reverse

/-- The class of a duration: how many bounds lie below it. -/
def classOf (d : Span) : Nat :=
  (bounds.filter (· < d)).length

/-- How long some requests took. -/
def durationPoint (attributes : Attributes) (ds : List Span) : DurationPoint where
  attributes
  count := ds.length
  sum := ds.foldl (fun s d => plus s (inSeconds d)) zero
  min := inSeconds (ds.min?.getD 0)
  max := inSeconds (ds.max?.getD 0)
  classes := (List.range (bounds.length + 1)).map fun i => (ds.filter (classOf · == i)).length

/-- What the outcome of an initiation is counted under. -/
def signalAttributes (s : Signal) : Attributes :=
  .object [("outcome", .text s.label)]

/-- What a request is counted under. -/
def requestAttributes (r : Http.MetricsRow) : Attributes :=
  .object [("method", .text r.method), ("route", .text r.route), ("status_code", .int r.status)]

/-- What the duration of a request is recorded under. -/
def durationAttributes (r : Http.MetricsRow) : Attributes :=
  .object [("method", .text r.method), ("route", .text r.route)]

/-- The metrics with at least one record, in the order of their descriptions. -/
def report (signals : List Signal) (requests : List RequestRecord) : List Metric :=
  let durations := (gather (requests.map fun r => (durationAttributes r.row, r.elapsed))).map
    fun (attributes, ds) => durationPoint attributes ds
  (if requests.isEmpty then []
    else [.durations durationsTitle durations,
      .counts requestsTitle (counts (requests.map (requestAttributes ·.row)))])
    ++ if signals.isEmpty then []
      else [.counts initiationsTitle (counts (signals.map signalAttributes))]

end Metrics

end PayOnce
