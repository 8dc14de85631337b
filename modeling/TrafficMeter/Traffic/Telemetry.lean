import TrafficMeter.Metric.Registry
import TrafficMeter.Traffic.Event

/-!
# Telemetry

The registries of a process, the one among them that records for the whole process, and the
journal.  A registry is named by its place in the list; everyone who knows the place shares it.

Main statement: `install_again`, that a process keeps its first recorder.
-/

namespace TrafficMeter.Traffic

open TrafficMeter.Metric (Registry Write)

/-- The place of a registry. -/
abbrev RegistryId := Nat

/-- The registries, the recorder and the journal of a process. -/
structure Telemetry where
  registries : List Registry := []
  recorder : Option RegistryId := none
  journal : List Event := []

namespace Telemetry

/-- Notes an event. -/
def note (t : Telemetry) (e : Event) : Telemetry := { t with journal := t.journal ++ [e] }

/-- Adds a registry and tells its place. -/
def addRegistry (t : Telemetry) (r : Registry) : Telemetry × RegistryId :=
  ({ t with registries := t.registries ++ [r] }, t.registries.length)

/-- The registry at a place. -/
def registry (t : Telemetry) (id : RegistryId) : Registry :=
  (t.registries[id]?).getD Registry.empty

/-- Replaces the registry at a place. -/
def setRegistry (t : Telemetry) (id : RegistryId) (r : Registry) : Telemetry :=
  { t with registries := t.registries.set id r }

/-- Tallies a registry whose page is shown. -/
def tally (t : Telemetry) (id : RegistryId) : Telemetry :=
  t.setRegistry id (t.registry id).tally

/-- Writes to a registry whose owner holds the series. -/
def write (t : Telemetry) (id : RegistryId) (w : Write) : Telemetry :=
  t.setRegistry id ((t.registry id).apply w)

/-- Writes to a registry through the recorder interface, which notes the use of a claimed name. -/
def record (t : Telemetry) (id : RegistryId) (w : Write) : Telemetry :=
  let t := match w.seriesName? with
    | some name => if (t.registry id).isRegistered name then t.note (.claimedNameReused name) else t
    | none => t
  t.write id w

/-- Writes to the recorder of the process; without one nothing happens. -/
def emit (t : Telemetry) (w : Write) : Telemetry :=
  match t.recorder with
  | some id => t.record id w
  | none => t

/-- Writes to the recorder of the process one after the other. -/
def emitAll (t : Telemetry) (ws : List Write) : Telemetry := ws.foldl emit t

/-- Makes a registry the recorder of the process, which cannot be changed later. -/
def install (t : Telemetry) (id : RegistryId) : Telemetry × Except MeterError Unit :=
  match t.recorder with
  | some _ => (t, .error .recorderAlreadyInstalled)
  | none => ({ t with recorder := some id }.note .recorderInstalled, .ok ())

/-- Takes over a registry that has grown by claims, and notes them. -/
def noteClaims (t : Telemetry) (id : RegistryId) (r : Registry) : Telemetry :=
  let new := r.claimed.drop (t.registry id).claimed.length
  (new.map Event.metricRegistered).foldl note (t.setRegistry id r)

/-- Claims a counter family. -/
def registerCounter (t : Telemetry) (id : RegistryId) (name help : String) :
    Telemetry × Except MeterError Unit :=
  match (t.registry id).registerCounter name help with
  | .ok r => (t.noteClaims id r, .ok ())
  | .error e => (t, .error e)

/-- Claims a summary. -/
def registerSummary (t : Telemetry) (id : RegistryId) (name help : String) :
    Telemetry × Except MeterError Unit :=
  match (t.registry id).registerSummary name help with
  | .ok r => (t.noteClaims id r, .ok ())
  | .error e => (t, .error e)

/-- The journal so far, and the telemetry with an empty one. -/
def takeJournal (t : Telemetry) : List Event × Telemetry := (t.journal, { t with journal := [] })

/-- A process keeps its first recorder. -/
theorem install_again (t : Telemetry) (first second : RegistryId)
    (h : t.recorder = some first) :
    t.install second = (t, .error .recorderAlreadyInstalled) := by
  simp [install, h]

end Telemetry

end TrafficMeter.Traffic
