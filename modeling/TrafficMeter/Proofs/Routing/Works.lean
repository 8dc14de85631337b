import TrafficMeter.Proofs.Routing.Fleet

/-!
# Routers that are built step by step

A router grows: routes are added at paths that it does not have, one by one or by joining another
router, and subsystems are registered, and attached in any order, in between.

Main statements: `Site.Goes.sound`, which meters a router has by then, and `RequestMeter.new_fresh`,
that no subsystem is registered twice.
-/

namespace TrafficMeter.Routing

open TrafficMeter.Traffic

/-- A router under construction, and the process that it is built in, with the subsystems that are
registered and not attached yet. -/
structure Site where
  telemetry : Telemetry
  spare : List String := []
  router : Router

/-- One step of the construction: a route is added, or those of another router, or a subsystem is
registered, or one that is registered is attached. -/
inductive Work where
  | route (path : String) (table : MethodTable)
  | merge (other : Router)
  | register (sub : String)
  | attach (sub path : String) (accounts : Option Auth.Accounts)

/-- Whether another router is joined. -/
def Work.isMerge : Work → Bool
  | merge _ => true
  | route _ _ | register _ | attach _ _ _ => false

/-- The subsystems that are registered. -/
def Work.subs : Work → List String
  | register sub => [sub]
  | route _ _ | merge _ | attach _ _ _ => []

/-- No route has the path. -/
def Router.Unrouted (r : Router) (path : String) : Prop := ∀ route ∈ r.routes, route.path ≠ path

/-- Nothing is measured for a registry. -/
def Service.Unmetered (id : RegistryId) (s : Service) : Prop :=
  ∀ m, .meter m ∈ s.layers → m.collectors.registry ≠ id

/-- A step of the construction is carried out. Subsystems are registered on one registry, and
nothing else is measured for it. -/
inductive Site.Does (id : RegistryId) (s : Site) : Work → Site → Prop
  | route {path : String} {table : MethodTable} {router : Router} (new : s.router.Unrouted path)
      (plain : ∀ service ∈ table.services, service.Unmetered id)
      (done : s.router.add path table = .ok router) :
      Does id s (.route path table) { s with router }
  | merge {other router : Router} (built : other.Built)
      (new : ∀ route ∈ other.routes, s.router.Unrouted route.path)
      (plain : ∀ service ∈ other.services, service.Unmetered id)
      (done : s.router.merge other = .ok router) : Does id s (.merge other) { s with router }
  | register {sub : String} {t : Telemetry} {m : RequestMeter}
      (made : RequestMeter.new s.telemetry id sub = (t, .ok m)) :
      Does id s (.register sub) { s with telemetry := t, spare := sub :: s.spare }
  | attach {sub path : String} {accounts : Option Auth.Accounts} {t : Telemetry}
      {router : Router} (held : sub ∈ s.spare) (new : s.router.Unrouted path)
      (done : (⟨Collectors.ofSubsystem id sub, path⟩ : RequestMeter).attach accounts s.telemetry
        s.router = (t, .ok router)) :
      Does id s (.attach sub path accounts) ⟨t, s.spare.erase sub, router⟩

/-- Steps are carried out one after the other. -/
inductive Site.Goes (id : RegistryId) : Site → List Work → Site → Prop
  | done (s : Site) : Goes id s [] s
  | next {s t u : Site} {work : Work} {works : List Work} (first : s.Does id work t)
      (rest : Goes id t works u) : Goes id s (work :: works) u

/-! ## What is attached so far -/

/-- A meter is for another registry, or for a subsystem that was registered and is not spare. -/
def Meter.Known (id : RegistryId) (subs spare : List String) (m : Meter) : Prop :=
  m.collectors.registry ≠ id ∨
    ∃ sub ∈ subs, sub ∉ spare ∧ m.collectors = Collectors.ofSubsystem id sub

/-- All meters of a router are for another registry, or for subsystems that were registered and are
not spare. -/
def Router.Known (id : RegistryId) (subs spare : List String) (r : Router) : Prop :=
  ∀ service ∈ r.services, ∀ m, .meter m ∈ service.layers → m.Known id subs spare

/-- A router under construction measures only for subsystems that were registered and attached. -/
structure Site.Sound (id : RegistryId) (subs : List String) (s : Site) : Prop where
  enlisted : Enlisted id subs s.telemetry
  built : s.router.Built
  meters : s.router.Known id subs s.spare
  spare : s.spare ⊆ subs
  distinct : s.spare.Nodup

variable {id : RegistryId} {subs : List String} {s t : Site} {work : Work} {works : List Work}
  {sub : String}

/-- A subsystem is not registered again. -/
theorem RequestMeter.new_fresh {t u : Telemetry} (enlisted : Enlisted id subs t)
    {m : RequestMeter} (made : RequestMeter.new t id sub = (u, .ok m)) : sub ∉ subs := by
  intro member
  obtain ⟨r, there, enrolled⟩ := enlisted.enrolled
  have claimed := ((enrolled sub member).2.claimed _ List.mem_cons_self).1
  have free := Collectors.free_of_register (register_of_new made) _ List.mem_cons_self
  rw [registry_of_get there, Metric.Registry.refusal?, if_pos claimed] at free
  split at free <;> cases free

/-- Registering a subsystem makes it spare. -/
theorem Meter.Known.register {spare : List String} {m : Meter} (h : m.Known id subs spare)
    (fresh : sub ∉ subs) : m.Known id (sub :: subs) (sub :: spare) := by
  obtain foreign | ⟨before, known, used, same⟩ := h
  · exact .inl foreign
  · refine .inr ⟨before, List.mem_cons_of_mem _ known, ?_, same⟩
    rintro (_ | ⟨_, spared⟩)
    · exact fresh known
    · exact used spared

/-- Where nothing is measured for the registry, all meters are for others. -/
theorem Service.Unmetered.known {service : Service} (h : service.Unmetered id)
    {spare : List String} {m : Meter} (layer : .meter m ∈ service.layers) :
    m.Known id subs spare := .inl (h m layer)

namespace Router.Known

variable {spare : List String} {r grown : Router}

theorem add {path : String} {table : MethodTable} (h : r.Known id subs spare)
    (plain : ∀ service ∈ table.services, service.Unmetered id)
    (done : r.add path table = .ok grown) : grown.Known id subs spare := by
  intro service member m layer
  rcases Router.services_add done member with old | own
  · exact h service old m layer
  · exact (plain service own).known layer

theorem merge {other : Router} (h : r.Known id subs spare)
    (plain : ∀ service ∈ other.services, service.Unmetered id)
    (done : r.merge other = .ok grown) : grown.Known id subs spare := by
  obtain ⟨added, all, joined⟩ := Router.merge_cases done
  have known : added.Known id subs spare :=
    Router.addAll_induction (P := Router.Known id subs spare) (fun member done meters =>
      meters.add (fun service own => plain service (Router.services_route member own)) done) all h
  rcases joined with ⟨-, rfl⟩ | ⟨-, rfl⟩
  · exact known
  · intro service member m layer
    rcases List.mem_cons.mp member with rfl | inside
    · exact (plain _ List.mem_cons_self).known layer
    · exact known service (List.mem_cons_of_mem _ inside) m layer

/-- Where a meter is attached, its subsystem is not spare any longer. -/
theorem attach {path : String} {accounts : Option Auth.Accounts} {t : Telemetry}
    (h : r.Known id subs spare) (distinct : spare.Nodup) (registered : sub ∈ subs)
    (done : ((⟨Collectors.ofSubsystem id sub, path⟩ : RequestMeter).attach accounts t r).2 =
      .ok grown) : grown.Known id subs (spare.erase sub) := by
  intro service member other layer
  obtain ⟨inner, rfl, origin⟩ := RequestMeter.services_attach done member
  rcases List.mem_cons.mp layer with own | layer
  · cases own
    exact .inr ⟨sub, registered, distinct.not_mem_erase, rfl⟩
  · rcases origin with old | rfl | rfl
    · obtain foreign | ⟨before, known, used, same⟩ := h inner old other layer
      · exact .inl foreign
      · exact .inr ⟨before, known, fun spared => used (List.mem_of_mem_erase spared), same⟩
    · exact absurd layer RequestMeter.meter_not_mem_exporter
    · cases layer

end Router.Known

theorem Site.Does.sound (does : s.Does id work t) (h : s.Sound id subs) :
    t.Sound id (work.subs ++ subs) := by
  cases does with
  | route new plain done =>
      exact { h with built := .add h.built done, meters := h.meters.add plain done }
  | merge built new plain done =>
      exact { h with built := .merge h.built built done, meters := h.meters.merge plain done }
  | @register sub u m made =>
      have fresh := RequestMeter.new_fresh h.enlisted made
      refine ⟨.join h.enlisted made, h.built, ?_, ?_, ?_⟩
      · exact fun service member m layer => (h.meters service member m layer).register fresh
      · exact List.cons_subset_cons sub h.spare
      · exact List.nodup_cons.mpr ⟨fun held => fresh (h.spare held), h.distinct⟩
  | @attach sub path accounts u router held new done =>
      have attached := congrArg Prod.snd done
      have same := RequestMeter.registries_attach ⟨Collectors.ofSubsystem id sub, path⟩ accounts
        s.telemetry s.router
      rw [done] at same
      refine ⟨.idle h.enlisted same, RequestMeter.built_attach h.built attached, ?_, ?_, ?_⟩
      · exact h.meters.attach h.distinct (h.spare held) attached
      · exact fun other member => h.spare (List.mem_of_mem_erase member)
      · exact h.distinct.erase sub

/-- Before anything is registered, a router that is not metered for the registry is sound. -/
theorem Site.Sound.start {t : Telemetry} {r : Router} (inside : id < t.registries.length)
    (built : r.Built) (bare : ∀ service ∈ r.services, service.Unmetered id) :
    Site.Sound id [] ⟨t, [], r⟩ :=
  ⟨.start inside, built, fun service member _ layer => (bare service member).known layer,
    List.nil_subset _, .nil⟩

/-- What was registered has readings. -/
theorem Site.Sound.readings (h : s.Sound id subs) (member : sub ∈ subs) :
    ∃ rd, (Collectors.ofSubsystem id sub).readings? s.telemetry = some rd := by
  obtain ⟨r, there, enrolled⟩ := h.enlisted.enrolled
  obtain ⟨rd, shown, -⟩ := (enrolled sub member).2.readings
  exact ⟨rd, (congrArg (Option.bind · _) there).trans shown⟩

/-- Whatever is built, the meters are those of subsystems that were registered. -/
theorem Site.Goes.sound (goes : s.Goes id works t) (h : s.Sound id subs) :
    ∃ all, subs ⊆ all ∧ t.Sound id all := by
  induction goes generalizing subs with
  | done s => exact ⟨subs, fun sub member => member, h⟩
  | next first rest ih =>
      obtain ⟨all, within, sound⟩ := ih (first.sound h)
      exact ⟨all, fun sub member => within (List.mem_append_right _ member), sound⟩

/-- The meters of a router are for other families than those of a spare subsystem. -/
theorem Site.Sound.apart (h : s.Sound id subs) (held : sub ∈ s.spare) :
    ∀ service ∈ s.router.services, ∀ m, .meter m ∈ service.layers →
      m.collectors.Apart (Collectors.ofSubsystem id sub) := by
  intro service member m layer
  obtain foreign | ⟨before, -, used, same⟩ := h.meters service member m layer
  · exact fun here => absurd here foreign
  · rw [same]
    refine Collectors.apart_of_ne ?_ id id
    rintro rfl
    exact used held

/-! ## Subsystems in use -/

/-- A subsystem was registered, and it is not spare. -/
structure Site.Uses (subs : List String) (sub : String) (s : Site) : Prop where
  registered : sub ∈ subs
  used : sub ∉ s.spare

/-- What is in use stays in use. -/
theorem Site.Does.uses (does : s.Does id work t) (sound : s.Sound id subs) (h : s.Uses subs sub) :
    t.Uses (work.subs ++ subs) sub := by
  refine ⟨List.mem_append_right _ h.registered, ?_⟩
  cases does with
  | route new plain done => exact h.used
  | merge built new plain done => exact h.used
  | attach held new done => exact fun spared => h.used (List.mem_of_mem_erase spared)
  | register made =>
      rintro (_ | ⟨_, spared⟩)
      · exact RequestMeter.new_fresh sound.enlisted made h.registered
      · exact h.used spared

/-- What is attached is in use. -/
theorem Site.Does.uses_attached {path : String} {accounts : Option Auth.Accounts}
    (does : s.Does id (.attach sub path accounts) t) (sound : s.Sound id subs) :
    t.Uses subs sub := by
  cases does with
  | attach held new done => exact ⟨sound.spare held, sound.distinct.not_mem_erase⟩

end TrafficMeter.Routing
