import TrafficMeter.Proofs.Routing.Account
import TrafficMeter.Proofs.Routing.ExporterPath
import TrafficMeter.Proofs.Traffic.Counts
import TrafficMeter.Proofs.Traffic.Registration

/-!
# From a registry to a metered router

A meter is set up once: its families are registered, and it is attached to a router. From then on
its families account for the responses of that router.

Main statements: `new_failed`, what a registration leaves behind that fails, and `run_shows`, that a
meter which started with a fresh registry shows exactly the responses that are finished.
-/

namespace TrafficMeter.Routing

open TrafficMeter.Metric (Registry)
open TrafficMeter.Http (Request)
open TrafficMeter.Traffic

/-- What a registration that fails leaves behind: the families before the first that is refused are
enrolled, and nothing else is changed. -/
theorem new_failed {t : Telemetry} {id : RegistryId} {subsystem : String} {e : MeterError}
    (failed : (RequestMeter.new t id subsystem).2 = .error e) :
    Collectors.register t id subsystem = ((RequestMeter.new t id subsystem).1, .error e) ∧
      ∃ before f after, (Collectors.ofSubsystem id subsystem).claims = before ++ f :: after ∧
        (∀ g ∈ before, (t.registry id).refusal? g.name = none) ∧
        (t.registry id).refusal? f.name = some e ∧
        (RequestMeter.new t id subsystem).1 = t.enrol id before ∧
        Extends before (t.registry id) ((RequestMeter.new t id subsystem).1.registry id) ∧
        (∀ name, ((RequestMeter.new t id subsystem).1.registry id).isRegistered name =
          ((t.registry id).isRegistered name || (before.map (·.name)).contains name)) ∧
        (before = [] → (RequestMeter.new t id subsystem).1 = t) ∧
        ((RequestMeter.new t id subsystem).1.registry id = t.registry id → before = []) ∧
        (Metric.Name.isValid f.name = false → before = []) := by
  rcases Collectors.register_cases t id subsystem with
    all | ⟨before, f, after, cause, split, free, refused, all⟩
  · rw [RequestMeter.new, all] at failed
    cases failed
  · have new : RequestMeter.new t id subsystem = (t.enrol id before, .error cause) := by
      rw [RequestMeter.new, all]
      rfl
    rw [new] at failed ⊢
    cases failed
    have added := enrolAll_extends (t.registry id) before
    rw [← Collectors.registry_enrol_of_refused split free refused] at added
    refine ⟨all, before, f, after, split, free, refused, rfl, added, ?_, ?_, ?_,
      Collectors.first_of_invalid split free⟩
    · intro name
      rw [Registry.isRegistered, added.claimed, List.contains_append]
      rfl
    · rintro rfl
      exact t.enrol_nil id
    · intro same
      have names := added.claimed
      rw [same] at names
      simpa using names

/-- A process that counts something under the name of the first summary of the subsystem "s". -/
def withTakenName : Telemetry :=
  ((Telemetry.addRegistry {} Registry.empty).1.registerCounter 0
    "s_request_duration_microseconds" "").1

theorem new_failed_at_summary :
    (RequestMeter.new withTakenName 0 "s").2 =
        .error (.alreadyRegistered "s_request_duration_microseconds") ∧
      ∃ before, before ≠ [] ∧
        (RequestMeter.new withTakenName 0 "s").1 = withTakenName.enrol 0 before := by
  have failed : (RequestMeter.new withTakenName 0 "s").2 =
      .error (.alreadyRegistered "s_request_duration_microseconds") := rfl
  obtain ⟨-, before, f, after, split, -, refused, enrolled, -⟩ := new_failed failed
  refine ⟨failed, before, ?_, enrolled⟩
  rintro rfl
  cases split
  cases refused

/-- A registration that fails can leave a name behind. -/
theorem new_not_atomic :
    ¬ ∀ (t : Telemetry) (id : RegistryId) (subsystem : String) (e : MeterError),
    (RequestMeter.new t id subsystem).2 = .error e →
      ∀ name, ((RequestMeter.new t id subsystem).1.registry id).isRegistered name =
        (t.registry id).isRegistered name := by
  intro atomic
  have kept := atomic withTakenName 0 "s" (.alreadyRegistered "s_request_duration_microseconds")
    rfl "s_requests_total"
  revert kept
  decide +kernel

/-- A meter that could be set up has the families that were registered for it. -/
theorem register_of_new {t made : Telemetry} {id : RegistryId} {subsystem : String}
    {m : RequestMeter} (new : RequestMeter.new t id subsystem = (made, .ok m)) :
    Collectors.register t id subsystem = (made, .ok m.collectors) := by
  rcases Collectors.register_cases t id subsystem with
    all | ⟨before, f, after, e, -, -, -, all⟩
  · rw [RequestMeter.new, all] at new
    cases new
    exact all
  · rw [RequestMeter.new, all] at new
    cases new

/-- A meter that could be set up has enrolled the families of its subsystem. -/
theorem enrolled_of_new {t made : Telemetry} {id : RegistryId} {subsystem : String}
    {m : RequestMeter} (new : RequestMeter.new t id subsystem = (made, .ok m)) :
    m = { collectors := Collectors.ofSubsystem id subsystem } ∧
      made = (t.enrol id (Collectors.ofSubsystem id subsystem).claims).note
        (.collectorsRegistered subsystem) := by
  rcases Collectors.register_cases t id subsystem with
    all | ⟨before, f, after, e, -, -, -, all⟩
  · rw [RequestMeter.new, all] at new
    cases new
    exact ⟨rfl, rfl⟩
  · rw [RequestMeter.new, all] at new
    cases new

/-! ## A meter with a registry of its own -/

/-- A registry as it is made, with the usual quantiles or with others. -/
def Fresh (r : Registry) : Prop :=
  r = Registry.empty ∨ ∃ quantiles, Registry.withQuantiles quantiles = .ok r

theorem Fresh.no_series {r : Registry} (h : Fresh r) : r.counters = [] ∧ r.summaries = [] := by
  rcases h with rfl | ⟨quantiles, made⟩
  · exact ⟨rfl, rfl⟩
  · rw [Registry.withQuantiles] at made
    split at made
    · cases made
    · cases made
      exact ⟨rfl, rfl⟩

/-- A meter that was set up with a fresh registry shows nothing yet. -/
theorem readings?_new {r : Registry} (fresh : Fresh r) {t next : Telemetry} {subsystem : String}
    {m : RequestMeter}
    (made : RequestMeter.new (t.addRegistry r).1 (t.addRegistry r).2 subsystem = (next, .ok m)) :
    m.collectors = Collectors.ofSubsystem (t.addRegistry r).2 subsystem ∧
      m.collectors.readings? next = some {} := by
  rcases Collectors.register_cases (t.addRegistry r).1 (t.addRegistry r).2 subsystem with
    all | ⟨before, f, after, e, -, -, -, all⟩
  · rw [RequestMeter.new, all] at made
    cases made
    refine ⟨rfl, ?_⟩
    have own : (t.addRegistry r).1.registry (t.addRegistry r).2 = r := by
      simp [Telemetry.addRegistry, Telemetry.registry]
    have inside : (t.addRegistry r).2 < (t.addRegistry r).1.registries.length := by
      simp [Telemetry.addRegistry]
    change Option.bind ((((t.addRegistry r).1.registries).set _ _)[(t.addRegistry r).2]?) _ = _
    rw [List.getElem?_set_self inside, Option.bind_some, own]
    exact Collectors.readingsIn_enrolAll fresh.no_series.1 fresh.no_series.2 _ subsystem
  · rw [RequestMeter.new, all] at made
    cases made

/-- A router whose own meters have other families is metered once a meter is attached. -/
theorem attach_meteredBy {m : RequestMeter} {accounts : Option Auth.Accounts} {t : Telemetry}
    {r attached : Router} (done : (m.attach accounts t r).2 = .ok attached)
    (apart : ∀ s ∈ r.services, ∀ other, .meter other ∈ s.layers →
      other.collectors.Apart m.collectors) :
    attached.MeteredBy m.collectors m.exporterPath := by
  intro s hs
  obtain ⟨inner, wrapped, origin⟩ := RequestMeter.services_attach done hs
  refine ⟨inner, wrapped, ?_⟩
  rcases origin with old | rfl | rfl
  · exact apart inner old
  · exact fun other layer => absurd layer RequestMeter.meter_not_mem_exporter
  · simp [Service.ofHandler]

/-- A meter that started with a fresh registry shows exactly the finished responses of the router
it is attached to, after every step. -/
theorem run_shows {r : Registry} (fresh : Fresh r) {t made attached : Telemetry}
    {subsystem path : String} {m : RequestMeter}
    (new : RequestMeter.new (t.addRegistry r).1 (t.addRegistry r).2 subsystem = (made, .ok m))
    {accounts : Option Auth.Accounts} {plain metered : Router}
    (attach : { m with exporterPath := path }.attach accounts made plain = (attached, .ok metered))
    (apart : ∀ s ∈ plain.services, ∀ other, .meter other ∈ s.layers →
      other.collectors.Apart m.collectors)
    {w : World} (run : Run m.collectors metered { telemetry := attached } w) :
    ∃ rd, m.collectors.readings? w.telemetry = some rd ∧
      rd.Shows m.collectors (w.finished path) := by
  obtain ⟨own, nothing⟩ := readings?_new fresh new
  have distinct : m.collectors.names.Nodup := by
    rw [own]
    exact Collectors.distinct_claims (t.addRegistry r).2 subsystem
  have start : m.collectors.readings? attached = some {} := by
    have noted := RequestMeter.registries_attach { m with exporterPath := path } accounts made plain
    rw [attach] at noted
    exact (Collectors.readings?_congr noted).trans nothing
  have all : metered.MeteredBy m.collectors path :=
    attach_meteredBy (congrArg Prod.snd attach) apart
  obtain ⟨-, done, same, shown⟩ := run_accounted distinct all run
    ⟨by simp, [], by simp [World.finished], start⟩
  exact ⟨_, shown, (shows_foldl_observe m.collectors done).perm same⟩

/-- A response that was dropped unread is counted. -/
theorem run_shows_unread :
    ∃ (made attached : Telemetry) (m : RequestMeter) (metered : Router) (w : World),
      RequestMeter.new (Telemetry.addRegistry {} Registry.empty).1 0 "http" = (made, .ok m) ∧
        { m with exporterPath := "/metrics" }.attach none made {} = (attached, .ok metered) ∧
        Run m.collectors metered { telemetry := attached } w ∧
        (w.finished "/metrics").map (·.status) = [404] ∧
        ∃ rd, m.collectors.readings? w.telemetry = some rd ∧
          rd.Shows m.collectors (w.finished "/metrics") := by
  let m : RequestMeter := ⟨Collectors.ofSubsystem 0 "http", "/metrics"⟩
  let t := (RequestMeter.new (Telemetry.addRegistry {} Registry.empty).1 0 "http").1
  have made : RequestMeter.new (Telemetry.addRegistry {} Registry.empty).1 0 "http" =
      (t, .ok m) := rfl
  let exporter := MethodTable.single .get (m.exporter none)
  let metered := Router.wrap
    { routes := [⟨"/metrics", Piece.plain (Text.bytes "/metrics"), exporter⟩] } m.layer
  have added : Router.add {} "/metrics" exporter = _ :=
    Router.Built.empty.faithful.add_plain (by decide) (by decide) (by simp) exporter
  have attached : m.attach none t {} = ((m.attach none t {}).1, .ok metered) :=
    Prod.ext rfl (RequestMeter.attach_eq_ok_iff.mpr ⟨by decide, _, added, rfl⟩)
  let start : World := { telemetry := (m.attach none t {}).1 }
  let request : Request := { method := "GET", target := { path := "/lost" } }
  let asked := start.act metered (.arrive 0 request)
  let answered := asked.act metered (.answer 0 1)
  have none : start.telemetry.recorder = none := by decide +kernel
  have first : Step m.collectors metered start asked := .act (.arrive 0 request) trivial
  have second : Step m.collectors metered asked answered :=
    .act (.answer 0 1) fun recorder => absurd (none.symm.trans recorder) (by simp)
  have third : Step m.collectors metered answered (answered.act metered (.drop 0)) :=
    .act (.drop 0) trivial
  have run := ((Relation.ReflTransGen.refl.tail first).tail second).tail third
  refine ⟨t, _, m, metered, _, made, attached, run, rfl, ?_⟩
  exact run_shows (.inl rfl) made attached (by simp [Router.services, Service.ofHandler]) run

end TrafficMeter.Routing
