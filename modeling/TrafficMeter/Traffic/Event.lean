import TrafficMeter.Decimal.Layout

/-!
# The journal

What is worth telling an operator is noted as an event with a level and named fields.
-/

namespace TrafficMeter.Traffic

/-- The levels of events. -/
inductive Level where
  | trace
  | debug
  | info
  | warn
deriving DecidableEq, Repr

/-- The word for a level. -/
def Level.word : Level → String
  | trace => "TRACE"
  | debug => "DEBUG"
  | info => "INFO"
  | warn => "WARN"

/-- What is noted. -/
inductive Event where
  | metricRegistered (metric : String)
  | collectorsRegistered (subsystem : String)
  | recorderInstalled
  | claimedNameReused (metric : String)
  | endpointAttached (path : String)
  | credentialsAccepted (user path : String)
  | credentialsRejected (path : String)
  | requestRecorded (status : Nat) (method path : String) (responseSize : UInt64)
deriving DecidableEq, Repr

namespace Event

/-- The level of an event. -/
def level : Event → Level
  | metricRegistered _ | credentialsAccepted _ _ => .debug
  | collectorsRegistered _ | recorderInstalled | endpointAttached _ => .info
  | claimedNameReused _ | credentialsRejected _ => .warn
  | requestRecorded _ _ _ _ => .trace

/-- The message of an event. -/
def message : Event → String
  | metricRegistered _ => "Registered metric"
  | collectorsRegistered _ => "HTTP request metrics registered"
  | recorderInstalled => "Metrics registry installed as global recorder"
  | claimedNameReused _ => "Recorder series reuses a registered metric name"
  | endpointAttached _ => "Metrics endpoint attached"
  | credentialsAccepted _ _ => "Basic auth accepted"
  | credentialsRejected _ => "Basic auth rejected"
  | requestRecorded _ _ _ _ => "Recorded request"

/-- The fields of an event in the order of their names, the message among them.  The time that a
request took is shown by a fixed text, so that journals can be compared. -/
def fields (clock : String) (e : Event) : List (String × String) :=
  let message := ("message", e.message)
  match e with
  | metricRegistered metric | claimedNameReused metric => [message, ("metric", metric)]
  | collectorsRegistered subsystem => [message, ("subsystem", subsystem)]
  | recorderInstalled => [message]
  | endpointAttached path | credentialsRejected path => [message, ("path", path)]
  | credentialsAccepted user path => [message, ("path", path), ("user", user)]
  | requestRecorded status method path responseSize =>
      [("elapsed_us", clock), message, ("method", method), ("path", path),
        ("response_size", Decimal.natural responseSize.toNat), ("status", Decimal.natural status)]

end Event

end TrafficMeter.Traffic
