import TrafficMeter.Error
import TrafficMeter.Metric.Name
import TrafficMeter.Metric.Samples
import TrafficMeter.Metric.Series
import TrafficMeter.Metric.Sketch

/-!
# The registry

A registry holds the series of a program and the names that were claimed for families.  A name
is claimed once; what is written through the recorder interface needs no claim.  A help text is
kept under the name that the page shows, and the first one stays.

Main statements: `claim_eq_ok_iff` and `claim_eq_error_iff`, when a claim succeeds and which of
the two failures it has otherwise, and `apply_claimed`, that no write claims a name.
-/

namespace TrafficMeter.Metric

/-- The series of a program. -/
structure Registry where
  /-- The quantiles that each summary shows, within their bounds. -/
  quantiles : List Float
  /-- The claimed names, in the order of their claims. -/
  claimed : List String := []
  /-- The help texts by the names that the page shows. -/
  helps : List (String × String) := []
  counters : Table UInt64 := []
  gauges : Table Float := []
  summaries : Table Samples := []

/-- One write to a registry. -/
inductive Write where
  | describe (name help : String)
  /-- Adds to a counter, which wraps around. -/
  | add (key : Key) (amount : UInt64)
  /-- Lifts a counter to a value unless it is there already. -/
  | raise (key : Key) (value : UInt64)
  | setGauge (key : Key) (value : Float)
  | shiftGauge (key : Key) (amount : Float)
  /-- Takes samples; without any, the summary only comes into being. -/
  | sample (key : Key) (values : List Float)

/-- The name of the series that a write goes to; help texts go to none. -/
def Write.seriesName? : Write → Option String
  | .describe _ _ => none
  | .add key _ | .raise key _ | .setGauge key _ | .shiftGauge key _ | .sample key _ =>
      some key.name

namespace Registry

/-- The quantiles of a registry that is not told which to show. -/
def defaultQuantiles : List Float := [0, 0.5, 0.9, 0.95, 0.99, 0.999, 1]

/-- A registry without series that shows the usual quantiles. -/
def empty : Registry := { quantiles := defaultQuantiles }

/-- A registry without series that shows the given quantiles. -/
def withQuantiles (quantiles : List Float) : Except MeterError Registry :=
  if quantiles.isEmpty then .error .emptyQuantiles
  else .ok { quantiles := quantiles.map Sketch.clamp }

/-- Keeps a help text unless the name has one. -/
def describe (r : Registry) (name help : String) : Registry :=
  let shown := Name.sanitize name
  if (r.helps.lookup shown).isSome then r else { r with helps := r.helps ++ [(shown, help)] }

/-- Carries out one write. -/
def apply (r : Registry) : Write → Registry
  | .describe name help => r.describe name help
  | .add key amount => { r with counters := Table.alter 0 (· + amount) key r.counters }
  | .raise key value => { r with counters := Table.alter 0 (max · value) key r.counters }
  | .setGauge key value => { r with gauges := Table.alter 0 (fun _ => value) key r.gauges }
  | .shiftGauge key amount => { r with gauges := Table.alter 0 (· + amount) key r.gauges }
  | .sample key values => { r with summaries := Table.alter {} (·.add values) key r.summaries }

/-- Carries out writes one after the other. -/
def applyAll (r : Registry) (ws : List Write) : Registry := ws.foldl apply r

/-- Adds up what waits in the summaries, as making a page does. -/
def tally (r : Registry) : Registry :=
  { r with summaries := r.summaries.map fun (key, samples) => (key, samples.tally) }

/-- Whether a name is claimed. -/
def isRegistered (r : Registry) (name : String) : Bool := r.claimed.contains name

/-- Claims a name. -/
def claim (r : Registry) (name : String) : Except MeterError Registry :=
  if Name.isValid name then
    if r.isRegistered name then .error (.alreadyRegistered name)
    else .ok { r with claimed := r.claimed ++ [name] }
  else .error (.invalidMetricName name)

/-- Claims a counter family; its series come into being when they are first used. -/
def registerCounter (r : Registry) (name help : String) : Except MeterError Registry := do
  let r ← r.claim name
  return r.apply (.describe name help)

/-- Claims a summary without labels, which comes into being at once. -/
def registerSummary (r : Registry) (name help : String) : Except MeterError Registry := do
  let r ← r.claim name
  return (r.apply (.describe name help)).apply (.sample ⟨name, []⟩ [])

/-- When a claim succeeds, and what it adds. -/
theorem claim_eq_ok_iff {r r' : Registry} {name : String} :
    r.claim name = .ok r' ↔
      Name.isValid name = true ∧ r.isRegistered name = false ∧
        r' = { r with claimed := r.claimed ++ [name] } := by
  unfold claim
  by_cases hv : Name.isValid name <;> by_cases hr : r.isRegistered name <;>
    simp [hv, hr, eq_comm]

/-- When a claim fails, and why. -/
theorem claim_eq_error_iff {r : Registry} {name : String} {e : MeterError} :
    r.claim name = .error e ↔
      (Name.isValid name = false ∧ e = .invalidMetricName name) ∨
        (Name.isValid name = true ∧ r.isRegistered name = true ∧ e = .alreadyRegistered name) := by
  unfold claim
  by_cases hv : Name.isValid name <;> by_cases hr : r.isRegistered name <;>
    simp [hv, hr, eq_comm]

/-- No write claims a name. -/
theorem apply_claimed (r : Registry) (w : Write) : (r.apply w).claimed = r.claimed := by
  cases w with
  | describe name help =>
      simp only [apply, describe]
      split <;> rfl
  | _ => rfl

end Registry

end TrafficMeter.Metric
