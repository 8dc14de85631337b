import TrafficMeter.Proofs.Routing.Works

/-!
# What each of several meters counts

Subsystems that are attached to the same router measure what was there when they were attached:
the routes of that time, exporters among them, and the fallback as long as it is not replaced. A
request is counted by a meter once or not at all, however many other meters are around it.

Main statement: `covers_attached`, which responses a subsystem has observed after any run.
-/

namespace TrafficMeter.Routing

open TrafficMeter.Http (Request)
open TrafficMeter.Traffic

variable {c : Collectors} {path : String}

/-! ## Services inside of meters -/

/-- What the responses of a service owe to a meter: one observation each if they are counted, but
for the exporter's path. -/
def Service.Counts (c : Collectors) (path : String) (counted : Bool) (s : Service) : Prop :=
  ∀ request t captures elapsed response,
    (s.respond t request captures elapsed).2 = .ok response →
      Owes c (if counted = true ∧ request.path ≠ path then
        [({ status := response.status, elapsed } : Answer).observation request] else [])
        response.body

theorem counts_of_apart {s : Service} (apart : ∀ m, .meter m ∈ s.layers → m.collectors.Apart c) :
    s.Counts c path false := by
  intro request t captures elapsed response answered
  rw [if_neg (by simp)]
  exact respond_owes_nil apart answered

theorem counts_wrap_own {s : Service} (apart : ∀ m, .meter m ∈ s.layers → m.collectors.Apart c) :
    (s.wrap (.meter ⟨c, path⟩)).Counts c path true := by
  intro request t captures elapsed response answered
  have owed := respond_owes rfl apart answered
  by_cases own : request.path = path
  · simpa [own] using owed
  · simpa [own] using owed

/-- A meter of other families around a body hides nothing of what it owes, and adds nothing. -/
theorem Owes.metered {owed : List Observation} {body : Body} (h : Owes c owed body) {p : Pending}
    (apart : p.collectors.Apart c) (written : UInt64) :
    Owes c owed (.metered (some p) written body) := by
  have other : ∀ q ∈ Body.settled (some p) written, q.collectors.Apart c := by
    intro q member
    cases List.mem_singleton.mp member
    exact apart
  refine ⟨?_, List.forall_mem_append.mpr ⟨fun q member => .inr (other q member), h.2⟩⟩
  have none := Collectors.due_of_apart other
  have split : c.due (Body.close (.metered (some p) written body)) =
      c.due (Body.settled (some p) written) ++ c.due body.close := by
    rw [Body.close, Collectors.due, List.filter_append, List.map_append]
    rfl
  rw [split, none, List.nil_append, h.1]

theorem Service.Counts.wrap {s : Service} {counted : Bool} (h : s.Counts c path counted) {m : Meter}
    (apart : m.collectors.Apart c) : (s.wrap (.meter m)).Counts c path counted := by
  intro request t captures elapsed response answered
  by_cases own : request.path = m.exporterPath
  · rw [Service.respond, Service.wrap, respondThrough_meter_own _ _ _ _ _ own] at answered
    exact h request t captures elapsed response answered
  · obtain ⟨size, plain, -, inside, rfl⟩ := measured_of_answered own answered
    exact (h request t captures elapsed plain inside).metered apart 0

/-! ## Routers that grow around a meter -/

namespace Router

/-- Whether a request for a path is sent to a route that an earlier router had, or to the fallback
if that was kept. -/
def reaches (last early : Router) (kept : Bool) (path : String) : Bool :=
  match last.find? path with
  | some (route, _) => early.routes.any (·.path = route.path)
  | none => kept

theorem ownFallback_add {r added : Router} {path : String} {table : MethodTable}
    (done : r.add path table = .ok added) : added.ownFallback = r.ownFallback := by
  rcases add_cases done with ⟨before, old, joined, after, -, -, -, rfl⟩ | ⟨pattern, -, -, rfl⟩
  · rfl
  · rfl

theorem any_path_eq_true_iff {r : Router} {path : String} :
    r.routes.any (·.path = path) = true ↔ ¬ r.Unrouted path := by
  simp [Unrouted]

theorem any_path_eq_false {r : Router} {path : String} (new : r.Unrouted path) :
    r.routes.any (·.path = path) = false := by
  rw [Bool.eq_false_iff]
  exact fun here => any_path_eq_true_iff.mp here new

/-- A router has grown out of an earlier one, all of which a meter measured. What was there is
counted by the meter, and nothing that was added. -/
structure Tracks (c : Collectors) (path : String) (r early : Router) (kept : Bool) : Prop where
  routes : ∀ route ∈ r.routes, ∀ s ∈ route.table.services,
    s.Counts c path (early.routes.any (·.path = route.path))
  fallback : r.fallback.Counts c path kept
  known : ∀ other, r.Unrouted other → early.Unrouted other

variable {early r added : Router} {kept : Bool}

/-- Adding a route keeps those that there are. -/
theorem unrouted_of_add {place : String} {table : MethodTable}
    (done : r.add place table = .ok added) {other : String} (new : added.Unrouted other) :
    r.Unrouted other := by
  rcases add_cases done with ⟨before, old, joined, after, same, -, -, rfl⟩ | ⟨pattern, -, -, rfl⟩
  · simp only [Unrouted, same, List.forall_mem_append, List.forall_mem_cons] at new ⊢
    exact new
  · exact fun route member => new route (List.mem_append_left _ member)

theorem unrouted_wrap {layer : Layer} {other : String} :
    (r.wrap layer).Unrouted other ↔ r.Unrouted other :=
  List.forall_mem_map

/-- A route is added that the earlier router did not have. -/
theorem Tracks.add (h : r.Tracks c path early kept) {place : String} {table : MethodTable}
    (new : early.Unrouted place) (plain : ∀ s ∈ table.services, s.Counts c path false)
    (done : r.add place table = .ok added) : added.Tracks c path early kept where
  routes := by
    intro route member s inside
    rcases mem_add done member with old | ⟨here, joins⟩
    · exact h.routes route old s inside
    · rw [here, any_path_eq_false new]
      rcases joins with ⟨same, -⟩ | ⟨old, there, at', merged⟩
      · rw [same] at inside
        exact plain s inside
      · rcases MethodTable.services_merge merged inside with first | second
        · have counts := h.routes old there s first
          rwa [at', any_path_eq_false new] at counts
        · exact plain s second
  fallback := by
    rw [fallback_add done]
    exact h.fallback
  known := fun other absent => h.known other (unrouted_of_add done absent)

theorem Tracks.wrap (h : r.Tracks c path early kept) {m : Meter} (apart : m.collectors.Apart c) :
    (r.wrap (.meter m)).Tracks c path early kept where
  routes := by
    intro route member s inside
    obtain ⟨bare, there, rfl⟩ := List.mem_map.mp member
    rw [MethodTable.services_wrap] at inside
    obtain ⟨inner, old, rfl⟩ := List.mem_map.mp inside
    exact (h.routes bare there inner old).wrap apart
  fallback := h.fallback.wrap apart
  known := fun other absent => h.known other (unrouted_wrap.mp absent)

/-- The routes of another router are added, which the earlier one did not have. -/
theorem Tracks.addAll (h : r.Tracks c path early kept) {routes : List Route}
    (new : ∀ route ∈ routes, early.Unrouted route.path)
    (plain : ∀ route ∈ routes, ∀ s ∈ route.table.services, s.Counts c path false)
    (done : r.addAll (routes.map fun route => (route.path, route.table)) = .ok added) :
    added.Tracks c path early kept :=
  addAll_induction (P := fun r => r.Tracks c path early kept)
    (fun member done tracks => tracks.add (new _ member) (plain _ member) done) done h

/-- The fallback is replaced, and not counted any longer. -/
theorem Tracks.replace (h : r.Tracks c path early kept) {fallback : Service} (own : Bool)
    (plain : fallback.Counts c path false) :
    { r with fallback, ownFallback := own }.Tracks c path early false :=
  ⟨h.routes, plain, h.known⟩

/-- Another meter is attached. -/
theorem Tracks.attach (h : r.Tracks c path early kept) {m : RequestMeter}
    (apart : m.collectors.Apart c) (new : early.Unrouted m.exporterPath)
    {accounts : Option Auth.Accounts} {t : Telemetry}
    (done : (m.attach accounts t r).2 = .ok added) : added.Tracks c path early kept := by
  obtain ⟨-, mounted, hadd, rfl⟩ := RequestMeter.attach_eq_ok_iff.mp done
  refine Tracks.wrap (h.add new ?_ hadd) apart
  intro service inside
  refine counts_of_apart fun other layer => ?_
  simp only [MethodTable.services, MethodTable.single, List.map_cons, List.map_nil,
    List.mem_cons, List.not_mem_nil, or_false] at inside
  rcases inside with rfl | rfl
  · cases layer
  · exact absurd layer RequestMeter.meter_not_mem_exporter

/-- What a router owes that has grown out of one that was metered. -/
theorem Tracks.owing (h : r.Tracks c path early kept) :
    r.Owing c fun request => if r.reaches early kept request.path then path else request.path := by
  intro request t captures elapsed response answered
  have counts : (r.select request).1.service.Counts c path
      (r.reaches early kept request.path) := by
    rw [select, reaches]
    cases found : r.find? request.path with
    | none => exact h.fallback
    | some hit => exact h.routes hit.1 (find?_mem found) _ (hit.1.table.select_mem request.method)
  have owed := counts request t captures elapsed response answered
  cases reached : r.reaches early kept request.path with
  | false => simpa [reached] using owed
  | true => simpa [reached] using owed

end Router

/-! ## Steps of the construction -/

/-- Whether the fallback of a router stays through some steps: joining another router replaces it
unless it was chosen. -/
def Router.keeps (early : Router) (works : List Work) : Bool :=
  early.ownFallback || !works.any Work.isMerge

variable {id : RegistryId} {subs : List String} {s t : Site} {work : Work} {works : List Work}
  {sub : String} {early : Router} {kept : Bool}

/-- Whether the fallback was chosen stays the same, unless it is replaced. -/
theorem Site.Does.ownFallback (does : s.Does id work t) :
    t.router.ownFallback = s.router.ownFallback ∨
      work.isMerge = true ∧ s.router.ownFallback = false := by
  cases does with
  | route new plain done => exact .inl (Router.ownFallback_add done)
  | merge built new plain done =>
      obtain ⟨added, all, ⟨-, rfl⟩ | ⟨unchosen, -⟩⟩ := Router.merge_cases done
      · exact .inl (Router.addAll_induction (P := fun r => r.ownFallback = s.router.ownFallback)
          (fun _ step same => (Router.ownFallback_add step).trans same) all rfl)
      · exact .inr ⟨rfl, unchosen⟩
  | register made => exact .inl rfl
  | attach held new done =>
      obtain ⟨-, added, hadd, rfl⟩ := RequestMeter.attach_eq_ok_iff.mp (congrArg Prod.snd done)
      have same : added.ownFallback = s.router.ownFallback := Router.ownFallback_add hadd
      exact .inl same

/-- A step keeps the routes. -/
theorem Site.Does.unrouted (does : s.Does id work t) {other : String}
    (new : t.router.Unrouted other) : s.router.Unrouted other := by
  cases does with
  | route unrouted plain done => exact Router.unrouted_of_add done new
  | merge built unrouted plain done =>
      obtain ⟨added, all, joined⟩ := Router.merge_cases done
      have absent : added.Unrouted other := by
        rcases joined with ⟨-, rfl⟩ | ⟨-, rfl⟩ <;> exact new
      by_contra here
      refine Router.addAll_induction (P := fun r => ¬ r.Unrouted other) ?_ all here absent
      exact fun _ step there gone => there (Router.unrouted_of_add step gone)
  | register made => exact new
  | attach held unrouted done =>
      obtain ⟨-, added, hadd, rfl⟩ := RequestMeter.attach_eq_ok_iff.mp (congrArg Prod.snd done)
      exact Router.unrouted_of_add hadd (Router.unrouted_wrap.mp new)

/-- Every step lets a meter count what it counted. -/
theorem Site.Does.tracks (does : s.Does id work t) (uses : s.Uses subs sub)
    (h : s.router.Tracks (Collectors.ofSubsystem id sub) path early kept) :
    t.router.Tracks (Collectors.ofSubsystem id sub) path early
      (kept && (s.router.ownFallback || !work.isMerge)) := by
  have foreign : ∀ {service : Service}, service.Unmetered id →
      service.Counts (Collectors.ofSubsystem id sub) path false :=
    fun unmetered => counts_of_apart fun m layer same => absurd same (unmetered m layer)
  cases does with
  | route new plain done =>
      have grown := h.add (h.known _ new) (fun service own => foreign (plain service own)) done
      simpa [Work.isMerge] using grown
  | @merge other router built new plain done =>
      obtain ⟨added, all, joined⟩ := Router.merge_cases done
      have grown := h.addAll (fun route there => h.known _ (new route there))
        (fun route there service own => foreign (plain service (Router.services_route there own)))
        all
      rcases joined with ⟨chosen, rfl⟩ | ⟨unchosen, rfl⟩
      · simpa [chosen] using grown
      · have replaced := grown.replace other.ownFallback
          (foreign (plain other.fallback List.mem_cons_self))
        simpa [unchosen, Work.isMerge] using replaced
  | register made => simpa [Work.isMerge] using h
  | @attach later place accounts u router held new done =>
      have apart : (Collectors.ofSubsystem id later).Apart (Collectors.ofSubsystem id sub) := by
        refine Collectors.apart_of_ne ?_ id id
        rintro rfl
        exact uses.used held
      have grown := h.attach apart (h.known _ new) (congrArg Prod.snd done)
      simpa [Work.isMerge] using grown

/-- What was there when a meter was attached is counted by it, whatever is built afterwards. -/
theorem Site.Goes.tracks (goes : s.Goes id works t) (sound : s.Sound id subs)
    (uses : s.Uses subs sub)
    (h : s.router.Tracks (Collectors.ofSubsystem id sub) path early kept) :
    t.router.Tracks (Collectors.ofSubsystem id sub) path early
      (kept && s.router.keeps works) := by
  induction goes generalizing subs kept with
  | done s => simpa [Router.keeps] using h
  | @next s u t work works first rest ih =>
      have later := ih (first.sound sound) (first.uses sound uses) (first.tracks uses h)
      have same : (kept && (s.router.ownFallback || !work.isMerge) && u.router.keeps works) =
          (kept && s.router.keeps (work :: works)) := by
        rw [Router.keeps, Router.keeps, List.any_cons]
        rcases first.ownFallback with same | ⟨merge, unchosen⟩
        · rw [same, Bool.not_or, Bool.or_and_distrib_left, Bool.and_assoc]
        · simp [merge, unchosen]
      rwa [same] at later

/-- A meter that was just attached counts everything that there is. -/
theorem Site.Does.tracks_attached {accounts : Option Auth.Accounts}
    (does : s.Does id (.attach sub path accounts) t) (sound : s.Sound id subs) :
    t.router.Tracks (Collectors.ofSubsystem id sub) path t.router true := by
  cases does with
  | @attach _ _ _ u router held new done =>
      have attached := congrArg Prod.snd done
      have apart := sound.apart held
      have counts : ∀ service ∈ router.services,
          service.Counts (Collectors.ofSubsystem id sub) path true := by
        intro service member
        obtain ⟨inner, rfl, origin⟩ := RequestMeter.services_attach attached member
        rw [RequestMeter.layer]
        refine counts_wrap_own fun other layer => ?_
        rcases origin with old | rfl | rfl
        · exact apart inner old other layer
        · exact absurd layer RequestMeter.meter_not_mem_exporter
        · cases layer
      refine ⟨?_, counts _ List.mem_cons_self, fun other absent => absent⟩
      intro route member service inside
      have here : router.routes.any (·.path = route.path) = true :=
        List.any_eq_true.mpr ⟨route, member, decide_eq_true rfl⟩
      rw [here]
      exact counts service (Router.services_route member inside)

theorem Site.Goes.unrouted (goes : s.Goes id works t) {other : String}
    (new : t.router.Unrouted other) : s.router.Unrouted other := by
  induction goes with
  | done s => exact new
  | next first rest ih => exact first.unrouted (ih new)

/-- The path of an exporter has no route before it is attached, and one afterwards. -/
theorem Site.Goes.routed (goes : s.Goes id works t) {other place : String}
    {accounts : Option Auth.Accounts} (member : .attach other place accounts ∈ works) :
    s.router.Unrouted place ∧ ¬ t.router.Unrouted place := by
  induction goes with
  | done s => cases member
  | next first rest ih =>
      rcases List.mem_cons.mp member with rfl | later
      · cases first with
        | attach held new done =>
            refine ⟨new, fun gone => ?_⟩
            obtain ⟨-, added, hadd, rfl⟩ :=
              RequestMeter.attach_eq_ok_iff.mp (congrArg Prod.snd done)
            obtain ⟨route, there, joins⟩ := Router.exists_joins hadd
            exact Router.unrouted_wrap.mp (rest.unrouted gone) route there joins.1
      · obtain ⟨new, known⟩ := ih later
        exact ⟨first.unrouted new, known⟩

/-- A path that has a route is sent there. -/
theorem Router.reaches_of_routed {last early : Router} (built : last.Built) {place : String}
    (routed : ¬ last.Unrouted place) (kept : Bool) :
    last.reaches early kept place = early.routes.any (·.path = place) := by
  simp only [Unrouted, not_forall, not_not] at routed
  obtain ⟨route, member, rfl⟩ := routed
  obtain ⟨captures, found⟩ := built.find?_own member
  rw [reaches, found]

/-! ## Runs -/

/-- What has finished of the requests that are sent to routes that a router had at an earlier time,
or to its fallback if that was kept, but for the exporter's path. -/
def World.covered (early last : Router) (kept : Bool) (path : String) (w : World) :
    List Observation :=
  (w.exchanges.filter fun x => last.reaches early kept x.request.path).flatMap (·.finished path)

theorem World.finishedBut_eq_covered (early last : Router) (kept : Bool) (path : String)
    (w : World) : (w.finishedBut fun request =>
      if last.reaches early kept request.path then path else request.path) =
        w.covered early last kept path := by
  obtain ⟨t, exchanges⟩ := w
  simp only [finishedBut, covered]
  induction exchanges with
  | nil => rfl
  | cons x rest ih =>
      rw [List.flatMap_cons, ih, List.filter_cons]
      cases reached : last.reaches early kept x.request.path with
      | true => simp
      | false => simp [Exchange.finished]

/-- What is expected of a subsystem that was attached to a router when it was `early`, and of the
router that has grown out of it, after a run. -/
structure Covers (id : RegistryId) (sub path : String) (before later : List Work) (early : Router)
    (last : Site) (w : World) : Prop where
  /-- Every response that is covered was observed once when it finished, and nothing else was. -/
  account : ∃ (rd : Readings) (done : List Observation),
    (Collectors.ofSubsystem id sub).readings? last.telemetry = some rd ∧
      done.Perm (w.covered early last.router (early.keeps later) path) ∧
      (Collectors.ofSubsystem id sub).readings? w.telemetry =
        some (done.foldl (.observe (Collectors.ofSubsystem id sub)) rd)
  /-- Exporters that were attached before are covered. -/
  earlier : ∀ other place accounts, .attach other place accounts ∈ before →
    place ≠ path ∧ last.router.reaches early (early.keeps later) place = true
  /-- Exporters that are attached later are not. -/
  later : ∀ other place accounts, .attach other place accounts ∈ later →
    last.router.reaches early (early.keeps later) place = false

/-- A subsystem observes the responses of what was there when it was attached, each of them once,
and no others. -/
theorem covers_attached {start : Telemetry} {plain : Router} {met last : Site}
    {before later : List Work} {accounts : Option Auth.Accounts}
    (inside : id < start.registries.length) (built : plain.Built)
    (bare : ∀ service ∈ plain.services, service.Unmetered id)
    (begun : Site.Goes id ⟨start, [], plain⟩ before s)
    (attached : s.Does id (.attach sub path accounts) met) (ended : met.Goes id later last)
    {w : World}
    (run : Run (Collectors.ofSubsystem id sub) last.router { telemetry := last.telemetry } w) :
    Covers id sub path before later met.router last w := by
  obtain ⟨subs, -, sound⟩ := begun.sound (.start inside built bare)
  have own := attached.sound sound
  have uses := attached.uses_attached sound
  have tracks := ended.tracks own uses (attached.tracks_attached sound)
  rw [Bool.true_and] at tracks
  obtain ⟨all, within, final⟩ := ended.sound own
  obtain ⟨rd, known⟩ := final.readings (within uses.registered)
  have unrouted : s.router.Unrouted path := by
    cases attached with
    | attach held new done => exact new
  refine ⟨?_, ?_, ?_⟩
  · obtain ⟨-, done, same, readings⟩ := run_tallied
      (Collectors.distinct_claims id sub) tracks.owing run ⟨by simp, [], .nil, known⟩
    rw [World.finishedBut_eq_covered] at same
    exact ⟨rd, done, known, same, readings⟩
  · intro other place guard member
    have routed := (begun.routed member).2
    have here : ¬ met.router.Unrouted place := fun gone => routed (attached.unrouted gone)
    refine ⟨?_, ?_⟩
    · rintro rfl
      exact routed unrouted
    · rw [Router.reaches_of_routed final.built fun gone => here (ended.unrouted gone)]
      exact Router.any_path_eq_true_iff.mpr here
  · intro other place guard member
    obtain ⟨absent, routed⟩ := ended.routed member
    rw [Router.reaches_of_routed final.built routed, Router.any_path_eq_false absent]

/-! ## Small routers -/

/-- What a router becomes when a path without captures is added to it. -/
def Router.plus (r : Router) (path : String) (table : MethodTable) : Router :=
  { r with routes := r.routes ++ [⟨path, Piece.plain (Text.bytes path), table⟩] }

/-- What becomes of a router and its process when a subsystem is registered. -/
def Site.registered (s : Site) (sub : String) : Site :=
  { s with telemetry := (RequestMeter.new s.telemetry 0 sub).1, spare := sub :: s.spare }

theorem Site.does_registered {s : Site} {sub : String} {m : RequestMeter}
    (made : (RequestMeter.new s.telemetry 0 sub).2 = .ok m) :
    s.Does 0 (.register sub) (s.registered sub) :=
  .register (Prod.ext rfl made)

/-- What becomes of a router and its process when a subsystem is attached. -/
def Site.attached (s : Site) (sub path : String) : Site :=
  let m : RequestMeter := ⟨Collectors.ofSubsystem 0 sub, path⟩
  { telemetry := (m.attach none s.telemetry s.router).1
    spare := s.spare.erase sub
    router := (s.router.plus path (.single .get (m.exporter none))).wrap m.layer }

theorem Site.does_attached (s : Site) (built : s.router.Built) {sub path : String}
    (held : sub ∈ s.spare) (valid : validPath path = true) (absolute : "/".toList <+: path.toList)
    (unmarked : path.toList.any Piece.isMark = false) (new : s.router.Unrouted path) :
    s.Does 0 (.attach sub path none) (s.attached sub path) := by
  have added := built.faithful.add_plain absolute unmarked new
    (.single .get ((⟨Collectors.ofSubsystem 0 sub, path⟩ : RequestMeter).exporter none))
  refine .attach held new (Prod.ext rfl ?_)
  exact RequestMeter.attach_eq_ok_iff.mpr ⟨valid, _, added, rfl⟩

/-- A process with one registry. -/
def oneRegistry : Telemetry := (Telemetry.addRegistry {} Metric.Registry.empty).1

/-- Without a recorder the handlers write nothing. -/
theorem run_actAll {c : Collectors} {r : Router} {w : World} (silent : w.telemetry.recorder = none)
    (actions : List Action) : Run c r w (w.actAll r actions) := by
  induction actions generalizing w with
  | nil => exact .refl
  | cons a rest ih =>
      have quiet : w.Quiet c r a := by
        cases a with
        | answer id elapsed => exact fun here => absurd (silent.symm.trans here) nofun
        | arrive id request | poll id | drop id => trivial
      exact .head (.act a quiet) (ih ((recorder_act r w a).trans silent))

/-- Two subsystems are registered, and the first of them is attached. -/
def worksA : List Work := [.register "b", .register "a", .attach "a" "/a" none]

def siteA (plain : Router) : Site :=
  (({ telemetry := oneRegistry, router := plain : Site }.registered "b").registered "a").attached
    "a" "/a"

theorem goes_siteA {plain : Router} (built : plain.Built) (new : plain.Unrouted "/a") :
    Site.Goes 0 ⟨oneRegistry, [], plain⟩ worksA (siteA plain) := by
  have other : (RequestMeter.new oneRegistry 0 "b").2 =
      .ok { collectors := Collectors.ofSubsystem 0 "b" } := by decide +kernel
  have own : (RequestMeter.new (RequestMeter.new oneRegistry 0 "b").1 0 "a").2 =
      .ok { collectors := Collectors.ofSubsystem 0 "a" } := by decide +kernel
  refine .next (Site.does_registered other) (.next (Site.does_registered own) (.next ?_ (.done _)))
  exact Site.does_attached _ built List.mem_cons_self (by decide) (by decide) (by decide) new

/-- Then the second is attached, and later one more route is added. -/
def siteB : Site := (siteA {}).attached "b" "/b"

def lateTable : MethodTable := .single .get (Service.ofHandler (Handler.constant {}))

def siteLate : Site := { siteB with router := siteB.router.plus "/late" lateTable }

/-- Requests are served one after the other. -/
def visits (paths : List String) : List Action :=
  (paths.zipIdx.flatMap fun e => serving e.2 (asking e.1 "0"))

theorem covers_siteB :
    let w := World.after siteLate.router siteLate.telemetry (visits ["/a", "/late", "/b", "/x"])
    (w.covered siteB.router siteLate.router
        (siteB.router.keeps [.route "/late" lateTable]) "/b").map (fun o => (o.path, o.status)) =
        [("/a", 200), ("/x", 404)] ∧
      Covers 0 "b" "/b" worksA [.route "/late" lateTable] siteB.router siteLate w := by
  refine ⟨by decide +kernel, ?_⟩
  have bare : ∀ service ∈ Router.services {}, service.Unmetered 0 := by
    intro service member m layer
    cases List.mem_singleton.mp member
    cases layer
  have first := goes_siteA .empty nofun
  obtain ⟨subs, -, sound⟩ := first.sound (.start (by decide) .empty bare)
  have second : (siteA {}).Does 0 (.attach "b" "/b" none) siteB := by
    refine Site.does_attached _ sound.built ?_ (by decide) (by decide) (by decide) ?_
    · exact List.mem_singleton.mpr rfl
    · simp [siteA, Site.attached, Site.registered, Router.plus, Router.Unrouted, Router.wrap]
  have late : siteB.router.Unrouted "/late" := by
    simp [siteB, siteA, Site.attached, Site.registered, Router.plus, Router.Unrouted, Router.wrap]
  have third : siteB.Does 0 (.route "/late" lateTable) siteLate := by
    refine .route late ?_ ?_
    · simp [lateTable, MethodTable.services, MethodTable.single, Service.ofHandler,
        Service.Unmetered]
    · exact (second.sound sound).built.faithful.add_plain (by decide) (by decide) late _
  exact covers_attached (by decide) .empty bare first second (.next third (.done _))
    (run_actAll (by decide +kernel) _)

/-- Not every request that is sent to the fallback is counted: one that crashes is not, nor is any
once another router was joined whose fallback takes the place of the one that was not chosen. -/
theorem fallback_not_counted :
    let crashing := Router.withFallback {} (Handler.crash "")
    let joined : Site := { siteA {} with router := { (siteA {}).router with fallback := {
      core := .handler Handler.notFound } } }
    let lost := World.after (siteA crashing).router (siteA crashing).telemetry (visits ["/x"])
    let missed := World.after joined.router joined.telemetry (visits ["/x"])
    Site.Goes 0 ⟨oneRegistry, [], crashing⟩ worksA (siteA crashing) ∧
      Site.Goes 0 ⟨oneRegistry, [], {}⟩ worksA (siteA {}) ∧
      (siteA {}).Does 0 (.merge {}) joined ∧
      ((siteA crashing).router.find? "/x").isNone = true ∧
      (joined.router.find? "/x").isNone = true ∧
      (missed.finished "/a").map (fun o => (o.path, o.status)) = [("/x", 404)] ∧
      ((Collectors.ofSubsystem 0 "a").readings? lost.telemetry).map (·.requests) = some [] ∧
      ((Collectors.ofSubsystem 0 "a").readings? missed.telemetry).map (·.requests) = some [] := by
  refine ⟨goes_siteA (.withFallback .empty _) nofun, goes_siteA .empty nofun, ?_, ?_⟩
  · refine .merge .empty nofun ?_ rfl
    intro service member m layer
    cases List.mem_singleton.mp member
    cases layer
  · decide +kernel

end TrafficMeter.Routing
