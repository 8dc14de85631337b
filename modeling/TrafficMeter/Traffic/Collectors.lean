import TrafficMeter.Decimal.Layout
import TrafficMeter.Metric.Page
import TrafficMeter.Traffic.Telemetry

/-!
# Collectors

The four families of a subsystem: a counter of requests by status code, method and path, and
summaries of the time a request took, of its size and of the size of its response.  A request
that is done is observed by one write to each.
-/

namespace TrafficMeter.Traffic

open TrafficMeter.Metric (Registry Write Key Kind)

/-- What is observed of a request that is done. -/
structure Observation where
  status : Nat
  method : String
  path : String
  /-- The time from the request's arrival until its response was ready, in microseconds. -/
  elapsed : Float
  requestSize : UInt64
  responseSize : UInt64

/-- The families of a subsystem in a registry. -/
structure Collectors where
  registry : RegistryId
  requests : String
  duration : String
  requestSize : String
  responseSize : String
deriving DecidableEq, Repr

/-- A family that is to be claimed. -/
structure FamilyClaim where
  kind : Kind
  name : String
  help : String
deriving DecidableEq, Repr

/-- Claims a family. -/
def FamilyClaim.register (c : FamilyClaim) (r : Registry) : Except MeterError Registry :=
  match c.kind with
  | .summary => r.registerSummary c.name c.help
  | .counter | .gauge => r.registerCounter c.name c.help

/-- Claims families in turn up to the first failure; what was claimed before it stays. -/
def claimAll (r : Registry) : List FamilyClaim → Registry × Except MeterError Unit
  | [] => (r, .ok ())
  | c :: rest =>
      match c.register r with
      | .ok r => claimAll r rest
      | .error e => (r, .error e)

namespace Collectors

/-- The families of a subsystem. -/
def ofSubsystem (registry : RegistryId) (subsystem : String) : Collectors :=
  { registry
    requests := Metric.Name.qualify subsystem "requests_total"
    duration := Metric.Name.qualify subsystem "request_duration_microseconds"
    requestSize := Metric.Name.qualify subsystem "request_size_bytes"
    responseSize := Metric.Name.qualify subsystem "response_size_bytes" }

/-- The claims of the families, the counter first. -/
def claims (c : Collectors) : List FamilyClaim :=
  [⟨.counter, c.requests,
      "How many HTTP requests processed, partitioned by status code, HTTP method and path."⟩,
    ⟨.summary, c.duration, "The HTTP request latencies in microseconds."⟩,
    ⟨.summary, c.requestSize, "The HTTP request sizes in bytes."⟩,
    ⟨.summary, c.responseSize, "The HTTP response sizes in bytes."⟩]

/-- Claims the families of a subsystem. -/
def register (t : Telemetry) (id : RegistryId) (subsystem : String) :
    Telemetry × Except MeterError Collectors :=
  let c := ofSubsystem id subsystem
  let (r, outcome) := claimAll (t.registry id) c.claims
  let t := t.noteClaims id r
  match outcome with
  | .ok () => (t.note (.collectorsRegistered subsystem), .ok c)
  | .error e => (t, .error e)

/-- The labels of the series that counts a request. -/
def labels (o : Observation) : List (String × String) :=
  [("code", Decimal.natural o.status), ("method", o.method), ("path", o.path)]

/-- The four writes that observe a request, in their order. -/
def writes (c : Collectors) (o : Observation) : List Write :=
  [.sample ⟨c.duration, []⟩ [o.elapsed],
    .sample ⟨c.requestSize, []⟩ [o.requestSize.toFloat],
    .sample ⟨c.responseSize, []⟩ [o.responseSize.toFloat],
    .add ⟨c.requests, labels o⟩ 1]

/-- Observes a request. -/
def observe (t : Telemetry) (c : Collectors) (o : Observation) : Telemetry :=
  (c.writes o).foldl (fun t w => t.write c.registry w) t

end Collectors

end TrafficMeter.Traffic
