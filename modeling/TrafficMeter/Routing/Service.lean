import TrafficMeter.Auth.Accounts
import TrafficMeter.Http.Size
import TrafficMeter.Metric.Page
import TrafficMeter.Routing.Handler
import TrafficMeter.Traffic.Response

/-!
# Services

What stands behind a route: a handler or the exporter, inside of layers.  A gate lets only
requests with the credentials of an account through.  A meter lets requests to its own exporter
through untouched; for every other request it measures the request first, then the response.  A
request that is too large to be measured crashes there, and what is inside is not reached.

Main statements: `respondThrough_meter_own`, that a meter does not see requests to its exporter,
`respondThrough_meter_sized` and `respondThrough_meter_unsized`, what it does with others, and
`respondThrough_gate_refused`, that a gate answers itself what it does not let through.
-/

namespace TrafficMeter.Routing

open TrafficMeter.Http (Request Headers)
open TrafficMeter.Traffic (Telemetry RegistryId Collectors Body Response Pending)

/-- What measures requests: the collectors and the path of the exporter. -/
structure Meter where
  collectors : Collectors
  exporterPath : String
deriving DecidableEq, Repr

/-- A layer around a service. -/
inductive Layer where
  | gate (accounts : Auth.Accounts)
  | meter (m : Meter)
deriving DecidableEq, Repr

/-- The innermost part of a service. -/
inductive Core where
  | handler (h : Handler)
  /-- Shows the page of a registry. -/
  | exporter (registry : RegistryId)

/-- A service: its layers from the outside in, and its core. -/
structure Service where
  layers : List Layer := []
  core : Core

/-- The content type of the page. -/
def pageContentType : String := "text/plain; version=0.0.4"

/-- The challenge to a client without credentials. -/
def challenge : String := "Basic realm=\"Authorization Required\""

/-- The answer to a client without credentials. -/
def unauthorized : Response :=
  { status := 401, headers := [("www-authenticate", challenge)] }

/-- The answer of a core. -/
def Core.respond (t : Telemetry) (request : Request) (captures : List (String × String)) :
    Core → Telemetry × Except String Response
  | handler h =>
      let reaction := h request captures
      (t.emitAll reaction.writes, reaction.outcome.map fun reply =>
        { status := reply.status, headers := reply.headers, body := .plain reply.source })
  | exporter id =>
      (t.tally id, .ok
        { headers := [("content-type", pageContentType)]
          status := 200
          body := .plain (.whole (Metric.Page.ofRegistry (t.registry id)).text) })

/-- Starts to measure a response to a request of some size. -/
def Meter.measure (m : Meter) (request : Request) (elapsed : Float) (requestSize : UInt64)
    (response : Response) : Response :=
  let observation :=
    { status := response.status
      method := request.method
      path := request.path
      elapsed
      requestSize
      responseSize := 0 }
  { response with body := .metered (some ⟨m.collectors, observation⟩) 0 response.body }

/-- The answer of a core inside of layers.  Every meter sees the same elapsed time. -/
def respondThrough (core : Core) (request : Request) (captures : List (String × String))
    (elapsed : Float) : List Layer → Telemetry → Telemetry × Except String Response
  | [], t => core.respond t request captures
  | .gate accounts :: inner, t =>
      match accounts.authorize request.headers with
      | some user =>
          respondThrough core request captures elapsed inner
            (t.note (.credentialsAccepted user request.path))
      | none => (t.note (.credentialsRejected request.path), .ok unauthorized)
  | .meter m :: inner, t =>
      if request.path = m.exporterPath then respondThrough core request captures elapsed inner t
      else
        match request.approximateSize with
        | .ok size =>
            let (t, answer) := respondThrough core request captures elapsed inner t
            (t, answer.map (m.measure request elapsed size))
        | .error message => (t, .error message)

namespace Service

/-- A service without layers. -/
def ofHandler (h : Handler) : Service := { core := .handler h }

/-- Puts a layer around a service. -/
def wrap (s : Service) (layer : Layer) : Service := { s with layers := layer :: s.layers }

/-- The answer of a service. -/
def respond (s : Service) (t : Telemetry) (request : Request)
    (captures : List (String × String)) (elapsed : Float) :
    Telemetry × Except String Response :=
  respondThrough s.core request captures elapsed s.layers t

end Service

section

variable (core : Core) {request : Request} (captures : List (String × String)) (elapsed : Float)
  {m : Meter} (inner : List Layer) (t : Telemetry)

/-- A meter does not see requests to its exporter. -/
theorem respondThrough_meter_own (own : request.path = m.exporterPath) :
    respondThrough core request captures elapsed (.meter m :: inner) t =
      respondThrough core request captures elapsed inner t := by
  rw [respondThrough, if_pos own]

/-- A meter measures what comes back for every other request that has a size. -/
theorem respondThrough_meter_sized (other : request.path ≠ m.exporterPath) {size : UInt64}
    (sized : request.approximateSize = .ok size) :
    respondThrough core request captures elapsed (.meter m :: inner) t =
      ((respondThrough core request captures elapsed inner t).1,
        (respondThrough core request captures elapsed inner t).2.map
          (m.measure request elapsed size)) := by
  rw [respondThrough, if_neg other, sized]

/-- A request that has no size does not get past a meter, unless it is to its exporter. -/
theorem respondThrough_meter_unsized (other : request.path ≠ m.exporterPath) {message : String}
    (unsized : request.approximateSize = .error message) :
    respondThrough core request captures elapsed (.meter m :: inner) t = (t, .error message) := by
  rw [respondThrough, if_neg other, unsized]

/-- A gate answers itself what it does not let through. -/
theorem respondThrough_gate_refused {accounts : Auth.Accounts}
    (refused : accounts.authorize request.headers = none) :
    respondThrough core request captures elapsed (.gate accounts :: inner) t =
      (t.note (.credentialsRejected request.path), .ok unauthorized) := by
  rw [respondThrough, refused]

end

end TrafficMeter.Routing
