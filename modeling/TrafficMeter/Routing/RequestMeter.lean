import TrafficMeter.Routing.Router
import TrafficMeter.Text.Split

/-!
# Metering a router

A request meter holds the collectors of a subsystem and the path of its exporter.  Attaching it
to a router adds the exporter at that path, behind a gate if there are accounts, and puts a meter
around everything that is there.

Main statement: `validPath_iff`, what an exporter path looks like.
-/

namespace TrafficMeter.Routing

open TrafficMeter.Traffic (Telemetry RegistryId Collectors)

/-- The path of an exporter that is not told where to be. -/
def defaultExporterPath : String := "/metrics"

/-- The collectors of a subsystem and the path of its exporter. -/
structure RequestMeter where
  collectors : Collectors
  exporterPath : String := defaultExporterPath
deriving DecidableEq, Repr

/-- Why a meter cannot be attached: the path is none for an exporter, or the router refuses it. -/
inductive AttachError where
  | meter (cause : MeterError)
  | route (cause : RouteError)
deriving DecidableEq, Repr

/-- Whether a segment starts with a capture. -/
def startsCapture (segment : List Char) : Bool :=
  match segment with
  | c :: _ => Piece.isMark c
  | [] => false

/-- Whether a path can be the path of an exporter: it starts with a slash, and no segment starts
with a capture. -/
def validPath (path : String) : Bool :=
  match path.toList with
  | '/' :: cs => (Text.split '/' cs).all (!startsCapture ·)
  | _ => false

/-- Checks the path of an exporter. -/
def checkPath (path : String) : Except MeterError Unit :=
  if validPath path then .ok () else .error (.invalidMetricsPath path)

namespace RequestMeter

/-- Claims the families of a subsystem. -/
def new (t : Telemetry) (id : RegistryId) (subsystem : String) :
    Telemetry × Except MeterError RequestMeter :=
  let (t, outcome) := Collectors.register t id subsystem
  (t, outcome.map fun collectors => { collectors })

/-- The layer that measures. -/
def layer (m : RequestMeter) : Layer := .meter ⟨m.collectors, m.exporterPath⟩

/-- The service of the exporter. -/
def exporter (m : RequestMeter) (accounts : Option Auth.Accounts) : Service :=
  let bare : Service := { core := .exporter m.collectors.registry }
  match accounts with
  | some accounts => bare.wrap (.gate accounts)
  | none => bare

/-- Adds the exporter to a router and measures everything that is there. -/
def mount (m : RequestMeter) (accounts : Option Auth.Accounts) (r : Router) :
    Except RouteError Router := do
  let r ← r.add m.exporterPath (.single .get (m.exporter accounts))
  .ok (r.wrap m.layer)

/-- Attaches a meter to a router; with accounts the exporter is behind a gate. -/
def attach (m : RequestMeter) (accounts : Option Auth.Accounts) (t : Telemetry) (r : Router) :
    Telemetry × Except AttachError Router :=
  match checkPath m.exporterPath with
  | .error e => (t, .error (.meter e))
  | .ok () =>
      (t.note (.endpointAttached m.exporterPath), (m.mount accounts r).mapError .route)

end RequestMeter

/-- What an exporter path looks like. -/
theorem validPath_iff (path : String) :
    validPath path = true ↔
      ∃ cs, path.toList = '/' :: cs ∧ ∀ s ∈ Text.split '/' cs, startsCapture s = false := by
  unfold validPath
  split
  · next cs h => simp [h]
  · next h =>
      simp only [Bool.false_eq_true, false_iff, not_exists, not_and]
      intro cs e
      exact absurd e (h cs)

end TrafficMeter.Routing
