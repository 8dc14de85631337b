import TrafficMeter.Text.Quoted

/-!
# What can go wrong while a meter is set up

Every failure happens while meters and exporters are put together; a request that is being
served never fails because of the meter.
-/

namespace TrafficMeter

/-- The causes of failure. -/
inductive MeterError where
  | alreadyRegistered (name : String)
  | invalidMetricName (name : String)
  | invalidMetricsPath (path : String)
  | emptyUsername
  | recorderAlreadyInstalled
  | emptyQuantiles
deriving DecidableEq, Repr

/-- The text of a failure. -/
def MeterError.message : MeterError → String
  | alreadyRegistered name => "Metric already registered: " ++ name
  | invalidMetricName name => "Invalid metric name: " ++ Text.quote name
  | invalidMetricsPath path => "Invalid metrics path: " ++ Text.quote path
  | emptyUsername => "Basic auth account with empty username"
  | recorderAlreadyInstalled => "A global metrics recorder is already installed"
  | emptyQuantiles =>
      "Exporter configuration error: bucket bounds/quantiles cannot be empty"

end TrafficMeter
