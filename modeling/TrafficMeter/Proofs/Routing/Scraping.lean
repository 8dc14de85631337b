import TrafficMeter.Proofs.Http.Admission
import TrafficMeter.Proofs.Routing.Metering
import TrafficMeter.Proofs.Traffic.Scrape

/-!
# Scraping a metered router

The page of a registry shows the requests of a run. Their paths come from clients, who may put
backslashes into them.

Main statement: `page_reads_back_iff`, for which runs the page can be read back.
-/

namespace TrafficMeter

namespace Traffic.Collectors

theorem ReadsBack.perm {c : Collectors} {page : String} {os others : List Observation}
    (h : ReadsBack c page os) (same : os.Perm others) : ReadsBack c page others where
  lines := by
    have expected : (c.expected os).Perm (c.expected others) := by
      have triples := ((same.map (·.triple)).dedup).map fun k : Triple =>
        ({ name := c.requests, labels := labelsOf k,
           value := Decimal.natural (os.countP (·.triple = k)) } : Metric.Line)
      refine triples.trans (.of_eq ?_)
      exact List.map_congr_left fun k _ => by rw [same.countP_eq]
    exact h.lines.trans (expected.map some)
  apart := h.apart

end Traffic.Collectors

namespace Routing

open TrafficMeter.Metric (Registry Page)
open TrafficMeter.Http (Request)
open TrafficMeter.Traffic

theorem legal_of_finished {w : World} (admitted : ∀ x ∈ w.exchanges, x.request.Admitted)
    {path : String} : ∀ o ∈ w.finished path, o.Legal := by
  intro o member
  obtain ⟨x, inside, own⟩ := List.mem_flatMap.mp member
  rw [Exchange.finished] at own
  split at own
  · cases own
  · rw [Option.mem_toList] at own
    obtain ⟨answer, -, rfl⟩ := Option.map_eq_some_iff.mp own
    obtain ⟨method, feed⟩ := (admitted x inside).legal
    exact ⟨method, feed⟩

/-- The names of a meter that was set up are valid. -/
theorem isValid_of_new {t made : Telemetry} {id : RegistryId} {subsystem : String}
    {m : RequestMeter}
    (new : RequestMeter.new t id subsystem = (made, .ok m)) :
    ∀ f ∈ (Collectors.ofSubsystem id subsystem).claims, Metric.Name.isValid f.name = true :=
  Collectors.isValid_of_register (register_of_new new)

/-- After any run of a meter that started with a fresh registry, the registry holds what was
observed of the finished responses. -/
theorem run_counted {r : Registry} (fresh : Fresh r) {t made attached : Telemetry}
    {subsystem path : String} {m : RequestMeter}
    (new : RequestMeter.new (t.addRegistry r).1 (t.addRegistry r).2 subsystem = (made, .ok m))
    {accounts : Option Auth.Accounts} {plain metered : Router}
    (attach : { m with exporterPath := path }.attach accounts made plain = (attached, .ok metered))
    (apart : ∀ s ∈ plain.services, ∀ other, .meter other ∈ s.layers →
      other.collectors.Apart m.collectors)
    {w : World} (run : Run m.collectors metered { telemetry := attached } w)
    (admitted : ∀ x ∈ w.exchanges, x.request.Admitted)
    (alone : m.collectors.AloneIn (w.telemetry.registry m.collectors.registry)) :
    ∃ done, done.Perm (w.finished path) ∧
      Collectors.Counted m.collectors (w.telemetry.registry m.collectors.registry) done := by
  obtain ⟨own, nothing⟩ := readings?_new fresh new
  have distinct : m.collectors.names.Nodup := by
    rw [own]
    exact Collectors.distinct_claims (t.addRegistry r).2 subsystem
  have start : m.collectors.readings? attached = some {} := by
    have noted := RequestMeter.registries_attach { m with exporterPath := path } accounts made plain
    rw [attach] at noted
    exact (Collectors.readings?_congr noted).trans nothing
  have all : metered.MeteredBy m.collectors path :=
    attach_meteredBy (congrArg Prod.snd attach) apart
  obtain ⟨-, done, same, shown⟩ := run_accounted distinct all run
    ⟨by simp, [], by simp [World.finished], start⟩
  obtain ⟨held, found, readings⟩ := Option.bind_eq_some_iff.mp shown
  have here : w.telemetry.registry m.collectors.registry = held := by
    rw [Telemetry.registry, found, Option.getD_some]
  have legal : ∀ o ∈ done, o.Legal := fun o member =>
    legal_of_finished admitted o (same.mem_iff.mp member)
  refine ⟨done, same, ?_⟩
  rw [here] at alone ⊢
  rw [own] at alone readings ⊢
  exact Collectors.counted_of_readings (isValid_of_new new) alone legal readings

theorem faithful_perm {os others : List Observation} (same : os.Perm others) :
    (∀ o ∈ os, o.Faithful os) ↔ ∀ o ∈ others, o.Faithful others := by
  have step : ∀ {os others : List Observation}, os.Perm others → (∀ o ∈ os, o.Faithful os) →
      ∀ o ∈ others, o.Faithful others := by
    intro os others same faithful o member
    obtain ⟨path, count⟩ := faithful o (same.mem_iff.mpr member)
    exact ⟨path, same.countP_eq _ ▸ count⟩
  exact ⟨step same, step same.symm⟩

/-! ## A process that serves requests one by one -/

/-- A meter, the process that it was set up in, and a router that serves nothing but its page. -/
structure Sole where
  meter : RequestMeter
  made : Telemetry
  attached : Telemetry
  router : Router
  new : RequestMeter.new (Telemetry.addRegistry {} Registry.empty).1 0 "http" = (made, .ok meter)
  attach : { meter with exporterPath := "/metrics" }.attach none made {} = (attached, .ok router)

/-- Such a process. -/
def sole : Sole :=
  let meter : RequestMeter := ⟨Collectors.ofSubsystem 0 "http", "/metrics"⟩
  let made := (RequestMeter.new (Telemetry.addRegistry {} Registry.empty).1 0 "http").1
  let exporter := MethodTable.single .get (meter.exporter none)
  have added : Router.add {} "/metrics" exporter = _ :=
    Router.Built.empty.faithful.add_plain (by decide) (by decide) (by simp) exporter
  { meter
    made
    attached := (meter.attach none made {}).1
    router := Router.wrap
      { routes := [⟨"/metrics", Piece.plain (Text.bytes "/metrics"), exporter⟩] } meter.layer
    new := rfl
    attach := Prod.ext rfl (RequestMeter.attach_eq_ok_iff.mpr ⟨by decide, _, added, rfl⟩) }

/-- A request comes in, is answered at once, and its response is dropped. -/
def World.serve (r : Router) (w : World) (path : String) : World :=
  let id := w.exchanges.length
  let asked := w.act r (.arrive id { method := "GET", target := { path } })
  (asked.act r (.answer id 1)).act r (.drop id)

theorem run_serve {c : Collectors} {r : Router} {first w : World} (run : Run c r first w)
    (silent : w.telemetry.recorder = none) (path : String) :
    Run c r first (World.serve r w path) := by
  let id := w.exchanges.length
  let asked := w.act r (.arrive id { method := "GET", target := { path } })
  let answered := asked.act r (.answer id 1)
  have arrives : Step c r w asked := .act (.arrive id _) trivial
  have answers : Step c r asked answered :=
    .act (.answer id 1) fun recorder => absurd (silent.symm.trans recorder) (by simp)
  have drops : Step c r answered (answered.act r (.drop id)) := .act (.drop id) trivial
  exact ((run.tail arrives).tail answers).tail drops

/-- A process that has served requests for some paths, one after the other. -/
def Sole.after (s : Sole) (paths : List String) : World :=
  paths.foldl (fun w path => World.serve s.router w path) { telemetry := s.attached }

/-! ## What is read of the page -/

/-- The page can be read back to the finished responses exactly if no path holds a backslash before
another one or before a double quote, and 64 bits are enough for each count. -/
theorem page_reads_back_iff {r : Registry} (fresh : Fresh r) {t made attached : Telemetry}
    {subsystem path : String} {m : RequestMeter}
    (new : RequestMeter.new (t.addRegistry r).1 (t.addRegistry r).2 subsystem = (made, .ok m))
    {accounts : Option Auth.Accounts} {plain metered : Router}
    (attach : { m with exporterPath := path }.attach accounts made plain = (attached, .ok metered))
    (apart : ∀ s ∈ plain.services, ∀ other, .meter other ∈ s.layers →
      other.collectors.Apart m.collectors)
    {w : World} (run : Run m.collectors metered { telemetry := attached } w)
    (admitted : ∀ x ∈ w.exchanges, x.request.Admitted)
    (alone : m.collectors.AloneIn (w.telemetry.registry m.collectors.registry)) :
    m.collectors.ReadsBack (Page.ofRegistry (w.telemetry.registry m.collectors.registry)).text
        (w.finished path) ↔ ∀ o ∈ w.finished path, o.Faithful (w.finished path) := by
  obtain ⟨done, same, counted⟩ := run_counted fresh new attach apart run admitted alone
  rw [← faithful_perm same, ← Collectors.readsBack_iff counted]
  exact ⟨fun back => back.perm same.symm, fun back => back.perm same⟩

/-- A backslash is kept that stands before a letter. -/
theorem page_keeps_backslash :
    ((sole.after ["/a\\b"]).finished "/metrics").map (·.path) = ["/a\\b"] ∧
      sole.meter.collectors.ReadsBack
        (Page.ofRegistry ((sole.after ["/a\\b"]).telemetry.registry
          sole.meter.collectors.registry)).text
        ((sole.after ["/a\\b"]).finished "/metrics") := by
  have admitted : ∀ x ∈ (sole.after ["/a\\b"]).exchanges, x.request.Admitted := by
    intro x member
    cases List.mem_singleton.mp member
    exact ⟨"GET", "/a\\b", .v11, [], "", rfl⟩
  have run := run_serve (c := sole.meter.collectors) (r := sole.router) .refl
    (show ({ telemetry := sole.attached } : World).telemetry.recorder = none by decide +kernel)
    "/a\\b"
  refine ⟨by decide +kernel, (page_reads_back_iff (.inl rfl) sole.new sole.attach
    (by simp [Router.services, Service.ofHandler]) run admitted (by decide +kernel)).mpr ?_⟩
  decide +kernel

/-- Two paths can have the same line. -/
theorem page_merges_paths : ¬ ∀ (r : Registry) (t made attached : Telemetry)
    (subsystem path : String) (m : RequestMeter) (accounts : Option Auth.Accounts)
    (plain metered : Router) (w : World), Fresh r →
    RequestMeter.new (t.addRegistry r).1 (t.addRegistry r).2 subsystem = (made, .ok m) →
    { m with exporterPath := path }.attach accounts made plain = (attached, .ok metered) →
    (∀ s ∈ plain.services, ∀ other, .meter other ∈ s.layers →
      other.collectors.Apart m.collectors) →
    Run m.collectors metered { telemetry := attached } w →
    (∀ x ∈ w.exchanges, x.request.Admitted) →
    m.collectors.AloneIn (w.telemetry.registry m.collectors.registry) →
    m.collectors.ReadsBack (Page.ofRegistry (w.telemetry.registry m.collectors.registry)).text
      (w.finished path) := by
  intro always
  let w := sole.after ["/a\\b", "/a\\\\b"]
  have admitted : ∀ x ∈ w.exchanges, x.request.Admitted := by
    intro x member
    rcases List.mem_cons.mp member with rfl | member
    · exact ⟨"GET", "/a\\b", .v11, [], "", rfl⟩
    · cases List.mem_singleton.mp member
      exact ⟨"GET", "/a\\\\b", .v11, [], "", rfl⟩
  have apart : ∀ s ∈ Router.services {}, ∀ other, .meter other ∈ s.layers →
      other.collectors.Apart sole.meter.collectors := by
    simp [Router.services, Service.ofHandler]
  have first := run_serve (c := sole.meter.collectors) (r := sole.router) .refl
    (show ({ telemetry := sole.attached } : World).telemetry.recorder = none by decide +kernel)
    "/a\\b"
  have run : Run sole.meter.collectors sole.router { telemetry := sole.attached } w :=
    run_serve first (by decide +kernel) "/a\\\\b"
  have alone : sole.meter.collectors.AloneIn
      (w.telemetry.registry sole.meter.collectors.registry) := by decide +kernel
  have back := always _ _ _ _ _ _ _ _ _ _ w (.inl rfl) sole.new sole.attach apart run admitted alone
  obtain ⟨done, same, counted⟩ :=
    run_counted (.inl rfl) sole.new sole.attach apart run admitted alone
  have kept := (faithful_perm same).mp (counted.faithful_of_readsBack (back.perm same.symm))
  revert kept
  decide +kernel

end Routing

end TrafficMeter
