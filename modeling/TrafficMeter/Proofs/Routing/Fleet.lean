import TrafficMeter.Proofs.Routing.Unseen
import TrafficMeter.Proofs.Traffic.Subsystems

/-!
# Subsystems side by side

Several subsystems share a registry, and each of them meters a router of its own. Requests come to
all of these routers, and what happens to them follows each other in any order. For each subsystem
such a run is compared with the run of its own router alone: whatever the others do leaves its
families level, and what its own router does is the same in both.

Main statements: `secluded_fleet`, that the families of a subsystem are those of its own run, and
`fleet_not_shown_alone`, what others can do to them nevertheless.
-/

namespace TrafficMeter.Routing

open TrafficMeter.Metric (Registry Page)
open TrafficMeter.Http (Request)
open TrafficMeter.Traffic

/-! ## What processes have of some families -/

namespace Service

variable {c : Collectors} {r s : Registry} {recorder : Option RegistryId} {request : Request}

/-- Registries agree after the same answer. -/
theorem agree_effect (h : c.Agree r s) (service : Service) (captures : List (String × String)) :
    c.Agree (service.effect recorder request captures c.registry r)
      (service.effect recorder request captures c.registry s) := by
  rw [effect, effect]
  split
  · cases service.core with
    | handler handler =>
        rw [Core.effect, Core.effect]
        split
        · exact h.applyAll _
        · exact h
    | exporter id =>
        rw [Core.effect, Core.effect]
        split
        · exact h.tally.symm.tally.symm
        · exact h
  · exact h

/-- Registries agree after an answer in one of them that leaves the families alone. -/
theorem agree_effect_spared (h : c.Agree r s) {service : Service}
    {captures : List (String × String)}
    (spares : recorder = some c.registry → ∀ handler, service.core = .handler handler →
      ∀ w ∈ (handler request captures).writes, c.SparedBy w) :
    c.Agree (service.effect recorder request captures c.registry r) s := by
  rw [effect]
  split
  · cases core : service.core with
    | handler handler =>
        rw [Core.effect]
        split
        · next here => exact h.applyAll_spared (spares here handler core)
        · exact h
    | exporter id =>
        rw [Core.effect]
        split
        · exact h.tally
        · exact h
  · exact h

end Service

/-- Two processes hold the same of some families. -/
structure Level (c : Collectors) (t u : Telemetry) : Prop where
  recorder : u.recorder = t.recorder
  agree : ∃ r s, t.registries[c.registry]? = some r ∧ u.registries[c.registry]? = some s ∧
    c.Agree r s

namespace Level

variable {c : Collectors} {t t' u u' : Telemetry} {f g : RegistryId → Registry → Registry}

/-- Both go on, in ways in which registries stay in agreement. -/
theorem acts (h : Level c t u) (first : Acts f t t') (second : Acts g u u')
    (keeps : ∀ r s, c.Agree r s → c.Agree (f c.registry r) (g c.registry s)) : Level c t' u' where
  recorder := by rw [first.recorder, second.recorder, h.recorder]
  agree := by
    obtain ⟨r, s, hr, hs, agree⟩ := h.agree
    refine ⟨_, _, ?_, ?_, keeps r s agree⟩
    · rw [first.registries, hr, Option.map_some]
    · rw [second.registries, hs, Option.map_some]

/-- Both observe the same requests. -/
theorem settle (h : Level c t u) (done : List Pending) :
    Level c (t.settle done) (u.settle done) :=
  h.acts ((Acts.refl t).settle done) ((Acts.refl u).settle done) fun _ _ agree => agree.applyAll _

/-- One of them observes requests of other families. -/
theorem settle_left (h : Level c t u) {done : List Pending}
    (foreign : ∀ q ∈ done, q.collectors.Apart c) : Level c (t.settle done) u :=
  h.acts ((Acts.refl t).settle done) (.refl u) fun _ _ agree =>
    agree.applyAll_spared (sparedBy_writesTo foreign)

theorem symm (h : Level c t u) : Level c u t where
  recorder := h.recorder.symm
  agree := by
    obtain ⟨r, s, hr, hs, agree⟩ := h.agree
    exact ⟨s, r, hs, hr, agree.symm⟩

end Level

/-! ## Exchanges of other routers -/

variable {c : Collectors} {path : String} {r : Router} {t u : Telemetry} {x y : Exchange}

/-- An exchange owes nothing to some families. -/
def Exchange.Foreign (c : Collectors) (x : Exchange) : Prop := x.Balanced c x.request.path

/-- What an exchange for the exporter's path hands out is for other families. -/
theorem Hands.foreign {owed handed : List Pending} (h : Hands c path owed x y handed)
    (own : x.request.path = path) : ∀ q ∈ handed, q.collectors.Apart c := by
  have nothing : c.due handed = [] := by
    have all := h.finished
    simpa [Exchange.finished, h.request, own] using all
  intro q member
  refine (h.others q member).resolve_left fun mine => ?_
  have due : q.observation ∈ c.due handed :=
    List.mem_map_of_mem (List.mem_filter.mpr ⟨member, by simpa using mine⟩)
  rw [nothing] at due
  cases due

/-- Changing an exchange that owes nothing leaves the families level. -/
def Leaves (c : Collectors) (u : Telemetry) (after : Telemetry × Exchange) : Prop :=
  Level c after.1 u ∧ after.2.Foreign c

theorem leaves_of_hands (level : Level c t u) {v : Telemetry} {owed handed : List Pending}
    (h : Hands c x.request.path owed x y handed) (same : v = t.settle handed) :
    Leaves c u (v, y) := by
  subst same
  refine ⟨level.settle_left (h.foreign rfl), ?_⟩
  rw [Exchange.Foreign, h.request]
  exact h.balanced

theorem leaves_poll (level : Level c t u) (h : x.Foreign c) : Leaves c u (x.poll t) := by
  obtain ⟨next, handed, moved, hands⟩ := poll_hands h
  rw [moved]
  exact leaves_of_hands level hands rfl

theorem leaves_drop (level : Level c t u) (h : x.Foreign c) : Leaves c u (x.drop t) := by
  obtain ⟨next, handed, moved, hands⟩ := drop_hands h
  rw [moved]
  exact leaves_of_hands level hands rfl

/-- A router leaves some families alone: its meters are for others, and so are the writes of its
handlers. -/
structure Router.Ignores (r : Router) (c : Collectors) (recorder : Option RegistryId) : Prop where
  measures : ∀ s ∈ r.services, ∀ m, .meter m ∈ s.layers → m.collectors.Apart c
  writes : recorder = some c.registry → ∀ s ∈ r.services, ∀ h, s.core = .handler h →
    ∀ request captures, ∀ w ∈ (h request captures).writes, c.SparedBy w

theorem leaves_answer (level : Level c t u) (ignores : r.Ignores c t.recorder) (h : x.Foreign c)
    (elapsed : Float) : Leaves c u (x.answer r elapsed t) := by
  obtain ⟨id, request, stage⟩ := x
  cases stage with
  | crashed | opened answer body ended | closed answer => exact ⟨level, h⟩
  | waiting =>
      have chosen := r.select_mem request
      have owes : ∀ response, ((r.select request).1.service.respond t request
          (r.select request).2 elapsed).2 = .ok response →
          Owes c (if request.path = request.path then []
            else [({ status := response.status, elapsed } : Answer).observation request])
            response.body := by
        intro response answered
        rw [if_pos rfl]
        exact respond_owes_nil (ignores.measures _ chosen) answered
      obtain ⟨next, handed, answered, hands⟩ := answer_hands r elapsed id owes
      rw [answered t _ rfl]
      have acted := level.acts (Acts.respond (r.select request).1.service t request
        (r.select request).2 elapsed) (.refl u) fun r s agree =>
          Service.agree_effect_spared agree fun here handler core =>
            ignores.writes here _ chosen handler core request _
      exact leaves_of_hands (x := ⟨id, request, .waiting⟩) acted hands rfl

/-! ## Exchanges of the own router -/

/-- Two exchanges are the same, unless they go to the exporter: then they are as far, and owe
nothing. -/
structure Exchange.Resembles (c : Collectors) (path : String) (r : Router) (x y : Exchange) :
    Prop where
  id : y.id = x.id
  request : y.request = x.request
  waiting : x.stage = .waiting ↔ y.stage = .waiting
  balanced : x.Balanced c path ∧ y.Balanced c path
  elsewhere : x.request.path ≠ path → y = x
  sent : x.request.path ≠ path → ¬ r.Dispatches path x.request.path

/-- Changing two exchanges keeps the families level and them alike. -/
def Follows (c : Collectors) (path : String) (r : Router) (first second : Telemetry × Exchange) :
    Prop :=
  Level c first.1 second.1 ∧ first.2.Resembles c path r second.2

/-- The same is handed out in both processes. -/
theorem follows_same (level : Level c t u) {owed handed : List Pending}
    (hands : Hands c path owed x y handed)
    (sent : x.request.path ≠ path → ¬ r.Dispatches path x.request.path) :
    Follows c path r (t.settle handed, y) (u.settle handed, y) := by
  refine ⟨level.settle handed, rfl, rfl, .rfl, ⟨hands.balanced, hands.balanced⟩, fun _ => rfl, ?_⟩
  rw [hands.request]
  exact sent

/-- What is handed out for the exporter's path is for other families. -/
theorem follows_own (level : Level c t u) (h : x.Resembles c path r y)
    (own : x.request.path = path) {next after : Exchange} {owed owed' handed handed' : List Pending}
    (first : Hands c path owed x next handed) (second : Hands c path owed' y after handed')
    (waiting : next.stage = .waiting ↔ after.stage = .waiting) :
    Follows c path r (t.settle handed, next) (u.settle handed', after) := by
  have there : y.request.path = path := by rw [h.request, own]
  refine ⟨?_, ?_, ?_, waiting, ⟨first.balanced, second.balanced⟩, ?_, ?_⟩
  · exact ((level.settle_left (first.foreign own)).symm.settle_left (second.foreign there)).symm
  · rw [first.id, second.id, h.id]
  · rw [first.request, second.request, h.request]
  · rw [first.request]
    exact fun other => absurd own other
  · rw [first.request]
    exact fun other => absurd own other

/-- Whatever is handed out by a change that does not look at the process. -/
theorem follows_of_hands {f : Telemetry → Exchange → Telemetry × Exchange}
    (hands : ∀ z : Exchange, z.Balanced c path → ∃ next handed,
      (∀ t, f t z = (t.settle handed, next)) ∧ Hands c path z.pending z next handed)
    (waits : ∀ t z, (f t z).2.stage = .waiting ↔ z.stage = .waiting) (level : Level c t u)
    (h : x.Resembles c path r y) : Follows c path r (f t x) (f u y) := by
  obtain ⟨next, handed, moved, first⟩ := hands x h.balanced.1
  by_cases own : x.request.path = path
  · obtain ⟨after, handed', moved', second⟩ := hands y h.balanced.2
    have waiting := (waits t x).trans (h.waiting.trans (waits u y).symm)
    rw [moved, moved'] at waiting ⊢
    exact follows_own level h own first second waiting
  · obtain rfl := h.elsewhere own
    rw [moved, moved]
    exact follows_same level first h.sent

theorem follows_poll (level : Level c t u) (h : x.Resembles c path r y) :
    Follows c path r (x.poll t) (y.poll u) := by
  refine follows_of_hands (f := Exchange.poll) (fun z => poll_hands) ?_ level h
  intro t z
  obtain ⟨id, request, stage⟩ := z
  cases stage <;> simp [Exchange.poll]

theorem follows_drop (level : Level c t u) (h : x.Resembles c path r y) :
    Follows c path r (x.drop t) (y.drop u) := by
  refine follows_of_hands (f := Exchange.drop) (fun z => drop_hands) ?_ level h
  intro t z
  obtain ⟨id, request, stage⟩ := z
  cases stage <;> simp [Exchange.drop]

/-- What is known of the service that a request goes to: behind the meter there are only meters of
other families, and only requests for the exporter's path are shown a registry. -/
structure Secret (c : Collectors) (path : String) (request : Request) (s : Service) : Prop where
  wrapped : ∃ inner : Service, s = inner.wrap (.meter ⟨c, path⟩) ∧
    ∀ m, .meter m ∈ inner.layers → m.collectors.Apart c
  shows : request.path ≠ path → ∀ place, s.core ≠ .exporter place

/-- Outside of the exporter's path the response does not depend on the process. -/
theorem Secret.respond_congr {request : Request} {s : Service} (h : Secret c path request s)
    (other : request.path ≠ path) (captures : List (String × String)) (elapsed : Float)
    (t u : Telemetry) : (s.respond t request captures elapsed).2 =
      (s.respond u request captures elapsed).2 :=
  respondThrough_congr fun place shown => absurd shown (h.shows other place)

theorem stage_answer (r : Router) (elapsed : Float) (t : Telemetry) (x : Exchange) :
    (x.answer r elapsed t).2.stage ≠ .waiting := by
  obtain ⟨id, request, stage⟩ := x
  cases stage with
  | crashed | opened answer body ended | closed answer => simp [Exchange.answer]
  | waiting =>
      simp only [Exchange.answer]
      split
      · simp
      · split <;> simp

theorem answer_of_not_waiting {x : Exchange} (done : x.stage ≠ .waiting) (r : Router)
    (elapsed : Float) (t : Telemetry) : x.answer r elapsed t = (t, x) := by
  obtain ⟨id, request, stage⟩ := x
  cases stage with
  | waiting => exact absurd rfl done
  | crashed | opened answer body ended | closed answer => rfl

theorem follows_answer (level : Level c t u) (h : x.Resembles c path r y)
    (secret : Secret c path x.request (r.select x.request).1.service) (elapsed : Float) :
    Follows c path r (x.answer r elapsed t) (y.answer r elapsed u) := by
  by_cases waits : x.stage = .waiting
  · obtain ⟨id, request, stage⟩ := x
    obtain ⟨id', request', stage'⟩ := y
    obtain rfl : id' = id := h.id
    obtain rfl : request' = request := h.request
    obtain rfl : stage = .waiting := waits
    obtain rfl : stage' = .waiting := h.waiting.mp rfl
    obtain ⟨inner, wrapped, apart⟩ := secret.wrapped
    have acted : Level c
        ((r.select request').1.service.respond t request' (r.select request').2 elapsed).1
        ((r.select request').1.service.respond u request' (r.select request').2 elapsed).1 := by
      refine level.acts (.respond _ t request' _ elapsed) (.respond _ u request' _ elapsed) ?_
      rw [level.recorder]
      exact fun r s agree => Service.agree_effect agree _ _
    have hands : ∀ v, _ := fun v => answer_hands r elapsed id' fun response
      (answered : ((r.select request').1.service.respond v request' (r.select request').2
        elapsed).2 = .ok response) => respond_owes wrapped apart answered
    obtain ⟨next, handed, answered, first⟩ := hands t
    by_cases own : request'.path = path
    · obtain ⟨after, handed', answered', second⟩ := hands u
      have moved := answered t _ rfl
      have moved' := answered' u _ rfl
      have waiting : next.stage = .waiting ↔ after.stage = .waiting := by
        have one := stage_answer r elapsed t ⟨id', request', .waiting⟩
        have other := stage_answer r elapsed u ⟨id', request', .waiting⟩
        rw [moved] at one
        rw [moved'] at other
        exact iff_of_false one other
      rw [moved, moved']
      exact follows_own acted h own first second waiting
    · rw [answered t _ rfl,
        answered u _ (Prod.ext rfl (secret.respond_congr own _ elapsed u t))]
      exact follows_same acted first h.sent
  · have done : y.stage ≠ .waiting := fun there => waits (h.waiting.mpr there)
    rw [answer_of_not_waiting waits, answer_of_not_waiting done]
    exact ⟨level, h⟩

/-! ## Whole processes -/

theorem changeFirst_follows {xs ys : List Exchange} {id : Nat}
    {f : Telemetry → Exchange → Telemetry × Exchange} (level : Level c t u)
    (same : List.Forall₂ (Exchange.Resembles c path r) xs ys)
    (follows : ∀ x y, x.Resembles c path r y → Follows c path r (f t x) (f u y)) :
    Level c (changeFirst id f t xs).1 (changeFirst id f u ys).1 ∧
      List.Forall₂ (Exchange.Resembles c path r) (changeFirst id f t xs).2
        (changeFirst id f u ys).2 := by
  induction same with
  | nil => exact ⟨level, .nil⟩
  | @cons x y xs ys h rest ih =>
      rw [changeFirst, changeFirst, h.id]
      split
      · obtain ⟨after, resembles⟩ := follows x y h
        exact ⟨after, .cons resembles rest⟩
      · exact ⟨ih.1, .cons h ih.2⟩

theorem changeFirst_leaves {xs : List Exchange} {id : Nat}
    {f : Telemetry → Exchange → Telemetry × Exchange} (level : Level c t u)
    (foreign : ∀ x ∈ xs, x.Foreign c) (leaves : ∀ x, x.Foreign c → Leaves c u (f t x)) :
    Level c (changeFirst id f t xs).1 u ∧ ∀ x ∈ (changeFirst id f t xs).2, x.Foreign c := by
  rcases changeFirst_cases id f t xs with same | ⟨before, x, after, rfl, -, changed⟩
  · rw [same]
    exact ⟨level, foreign⟩
  · obtain ⟨still, next⟩ := leaves x (foreign x (by simp))
    rw [changed]
    exact ⟨still, forall_mem_change foreign next⟩

/-- An action of the own router. -/
theorem act_follows {w v : World} (level : Level c w.telemetry v.telemetry)
    (same : List.Forall₂ (Exchange.Resembles c path r) w.exchanges v.exchanges)
    (secret : ∀ request : Request, (request.path ≠ path → ¬ r.Dispatches path request.path) →
      Secret c path request (r.select request).1.service) {a : Action}
    (sent : ∀ e ∈ arrivals [a], e.2.path ≠ path → ¬ r.Dispatches path e.2.path) :
    Level c (w.act r a).telemetry (v.act r a).telemetry ∧
      List.Forall₂ (Exchange.Resembles c path r) (w.act r a).exchanges (v.act r a).exchanges := by
  cases a with
  | arrive id request =>
      have new : Exchange.Resembles c path r ⟨id, request, .waiting⟩ ⟨id, request, .waiting⟩ :=
        ⟨rfl, rfl, .rfl, ⟨trivial, trivial⟩, fun _ => rfl, sent _ List.mem_cons_self⟩
      exact ⟨level, List.rel_append same (.cons new .nil)⟩
  | answer id elapsed =>
      exact changeFirst_follows level same fun x y h =>
        follows_answer level h (secret x.request h.sent) elapsed
  | poll id => exact changeFirst_follows level same fun x y h => follows_poll level h
  | drop id => exact changeFirst_follows level same fun x y h => follows_drop level h

/-- An action of another router. -/
theorem act_leaves {w : World} (level : Level c w.telemetry u)
    (foreign : ∀ x ∈ w.exchanges, x.Foreign c) (ignores : r.Ignores c w.telemetry.recorder)
    (a : Action) :
    Level c (w.act r a).telemetry u ∧ ∀ x ∈ (w.act r a).exchanges, x.Foreign c := by
  cases a with
  | arrive id request =>
      exact ⟨level, List.forall_mem_append.mpr ⟨foreign, List.forall_mem_singleton.mpr trivial⟩⟩
  | answer id elapsed =>
      exact changeFirst_leaves level foreign fun x h => leaves_answer level ignores h elapsed
  | poll id => exact changeFirst_leaves level foreign fun x h => leaves_poll level h
  | drop id => exact changeFirst_leaves level foreign fun x h => leaves_drop level h

theorem recorder_respond (r : Router) (t : Telemetry) (request : Request) (elapsed : Float) :
    (r.respond t request elapsed).1.recorder = t.recorder := by
  have kept : ((r.select request).1.service.respond t request (r.select request).2
      elapsed).1.recorder = t.recorder := recorder_respondThrough
  rw [Router.respond]
  simp only
  generalize (r.select request).1.service.respond t request (r.select request).2 elapsed =
    answered at kept
  obtain ⟨u, outcome⟩ := answered
  cases outcome with
  | error message => exact kept
  | ok response =>
      simp only [Router.complete]
      split
      · exact (u.recorder_settle _).trans kept
      · exact kept

theorem recorder_act (r : Router) (w : World) (a : Action) :
    (w.act r a).telemetry.recorder = w.telemetry.recorder := by
  have change : ∀ {id : Nat} {f : Telemetry → Exchange → Telemetry × Exchange},
      (∀ x, (f w.telemetry x).1.recorder = w.telemetry.recorder) →
      (w.change id f).telemetry.recorder = w.telemetry.recorder := by
    intro id f keeps
    rw [World.change]
    rcases changeFirst_cases id f w.telemetry w.exchanges with
      same | ⟨before, x, after, -, -, changed⟩
    · rw [same]
    · rw [changed]
      exact keeps x
  cases a with
  | arrive id request => rfl
  | answer id elapsed =>
      refine change fun x => ?_
      have kept := recorder_respond r w.telemetry x.request elapsed
      rw [Exchange.answer]
      split
      · split
        · next here => rwa [here] at kept
        · next here =>
            rw [here] at kept
            split <;> exact kept
      · rfl
  | poll id =>
      refine change fun x => ?_
      rw [Exchange.poll]
      split
      · exact w.telemetry.recorder_settle _
      · rfl
  | drop id =>
      refine change fun x => ?_
      rw [Exchange.drop]
      split
      · exact w.telemetry.recorder_settle _
      · rfl

/-! ## Fleets -/

/-- A router that a subsystem meters. -/
structure Post (id : RegistryId) (sub : String) where
  path : String
  accounts : Option Auth.Accounts
  plain : Router
  router : Router
  built : plain.Built
  attached : ∃ t, ((⟨Collectors.ofSubsystem id sub, path⟩ : RequestMeter).attach accounts t
    plain).2 = .ok router

/-- A process with the exchanges of the routers of several subsystems. -/
structure Fleet where
  telemetry : Telemetry
  exchanges : String → List Exchange := fun _ => []

/-- The actions on the exchanges of one of the routers. -/
def actionsOf (sub : String) (steps : List (String × Action)) : List Action :=
  (steps.filter (·.1 = sub)).map (·.2)

namespace Fleet

/-- An action is carried out with the router of a subsystem. -/
def act (routers : String → Router) (f : Fleet) (step : String × Action) : Fleet :=
  let w := World.act (routers step.1) ⟨f.telemetry, f.exchanges step.1⟩ step.2
  { telemetry := w.telemetry
    exchanges := fun sub => if sub = step.1 then w.exchanges else f.exchanges sub }

theorem exchanges_act (routers : String → Router) (f : Fleet) (sub : String) (a : Action)
    (other : String) : (f.act routers (sub, a)).exchanges other =
      if other = sub then (World.act (routers sub) ⟨f.telemetry, f.exchanges sub⟩ a).exchanges
      else f.exchanges other := rfl

/-- Actions are carried out one after the other. -/
def actAll (routers : String → Router) (f : Fleet) (steps : List (String × Action)) : Fleet :=
  steps.foldl (act routers) f

/-- What becomes of a process that starts with nothing under way. -/
def after (routers : String → Router) (start : Telemetry) (steps : List (String × Action)) :
    Fleet :=
  actAll routers { telemetry := start } steps

end Fleet

/-- A process in which subsystems were registered one after the other. -/
inductive Enlisted (id : RegistryId) : List String → Telemetry → Prop
  | start {t : Telemetry} (inside : id < t.registries.length) : Enlisted id [] t
  | join {subs : List String} {t u : Telemetry} {sub : String} {m : RequestMeter}
      (others : Enlisted id subs t) (new : RequestMeter.new t id sub = (u, .ok m)) :
      Enlisted id (sub :: subs) u
  | idle {subs : List String} {t u : Telemetry} (all : Enlisted id subs t)
      (same : u.registries = t.registries) : Enlisted id subs u

/-- A subsystem that was registered is accepted, and its families are in place. -/
theorem Enlisted.enrolled {id : RegistryId} {subs : List String} {t : Telemetry}
    (h : Enlisted id subs t) : ∃ r, t.registries[id]? = some r ∧ ∀ sub ∈ subs,
      (sub.isEmpty || Metric.Name.isValid sub) = true ∧
        (Collectors.ofSubsystem id sub).Enrolled r := by
  induction h with
  | start inside => exact ⟨_, List.getElem?_eq_getElem inside, nofun⟩
  | idle all same ih =>
      rw [same]
      exact ih
  | @join subs t u sub m others new ih =>
      obtain ⟨r, there, enrolled⟩ := ih
      have done := register_of_new new
      have accepted := Collectors.accepted_of_register done
      obtain ⟨own, rfl⟩ := Collectors.register_succeeded done
      refine ⟨enrolAll r m.collectors.claims, ?_, ?_⟩
      · have here : t.registry id = r := registry_of_get there
        change (t.registries.set id _)[id]? = _
        rw [here, List.getElem?_set_self (List.getElem?_eq_some_iff.mp there).1]
      · intro other member
        rcases List.mem_cons.mp member with rfl | old
        · refine ⟨accepted, ?_⟩
          rw [← own]
          exact Collectors.enrolled_enrolAll m.collectors r
        · exact ⟨(enrolled other old).1, (enrolled other old).2.enrolAll _⟩

namespace Post

variable {id : RegistryId} {sub : String}

/-- What a subsystem meters its router with. -/
def meter (p : Post id sub) : RequestMeter := ⟨Collectors.ofSubsystem id sub, p.path⟩

/-- A router shows no registry itself, measures nothing for the families of its subsystem, and
leaves those of other subsystems alone. -/
structure Calm (p : Post id sub) (subs : List String) (recorder : Option RegistryId) : Prop where
  shows : ∀ s ∈ p.plain.services, ∀ place, s.core ≠ .exporter place
  measures : ∀ s ∈ p.plain.services, ∀ m, .meter m ∈ s.layers →
    m.collectors.Apart (Collectors.ofSubsystem id sub)
  ignores : ∀ other ∈ subs, other ≠ sub →
    p.plain.Ignores (Collectors.ofSubsystem id other) recorder

variable {p : Post id sub} {subs : List String} {recorder : Option RegistryId}

/-- With its meter a router leaves other subsystems alone. -/
theorem Calm.ignores_router (calm : p.Calm subs recorder) {other : String} (member : other ∈ subs)
    (apart : other ≠ sub) : p.router.Ignores (Collectors.ofSubsystem id other) recorder := by
  obtain ⟨t, attached⟩ := p.attached
  have plain := calm.ignores other member apart
  refine ⟨?_, ?_⟩
  · intro s inside m layer
    obtain ⟨inner, rfl, origin⟩ := RequestMeter.services_attach attached inside
    rcases List.mem_cons.mp layer with own | layer
    · cases own
      exact Collectors.apart_of_ne apart.symm id id
    · rcases origin with old | rfl | rfl
      · exact plain.measures inner old m layer
      · exact absurd layer RequestMeter.meter_not_mem_exporter
      · cases layer
  · intro here s inside h core request captures
    obtain ⟨inner, rfl, origin⟩ := RequestMeter.services_attach attached inside
    rcases origin with old | rfl | rfl
    · exact plain.writes here inner old h core request captures
    · cases (RequestMeter.core_exporter ..).symm.trans core
    · cases core
      nofun

/-- A subsystem shows its registry only at the path of its exporter. -/
theorem Calm.secret (calm : p.Calm subs recorder) {request : Request}
    (sent : request.path ≠ p.path → ¬ p.router.Dispatches p.path request.path) :
    Secret (Collectors.ofSubsystem id sub) p.path request (p.router.select request).1.service := by
  obtain ⟨t, attached⟩ := p.attached
  refine ⟨attach_meteredBy attached calm.measures _ (p.router.select_mem request), ?_⟩
  intro other place
  obtain ⟨inner, chosen, ⟨old, -⟩ | ⟨here, -⟩⟩ := RequestMeter.select_attach attached request
  · rw [chosen]
    exact calm.shows inner old place
  · exact absurd here (sent other)

end Post

/-! ## Runs of a fleet -/

section

variable {id : RegistryId} {subs : List String} {start : Telemetry}
  {posts : ∀ sub, Post id sub} {sub : String} {f : Fleet} {w : World}

/-- A fleet and the process of one of its subsystems: what they hold of its families is the same,
its own exchanges are alike, and all others owe it nothing. -/
structure Alongside (start : Telemetry) (p : Post id sub) (f : Fleet) (w : World) : Prop where
  recorder : f.telemetry.recorder = start.recorder
  level : Level (Collectors.ofSubsystem id sub) f.telemetry w.telemetry
  own : List.Forall₂ (Exchange.Resembles (Collectors.ofSubsystem id sub) p.path p.router)
    (f.exchanges sub) w.exchanges
  foreign : ∀ other, other ≠ sub → ∀ x ∈ f.exchanges other,
    x.Foreign (Collectors.ofSubsystem id sub)

/-- The router of the subsystem acts. -/
theorem Alongside.act_own (h : Alongside start (posts sub) f w)
    (calm : (posts sub).Calm subs start.recorder) {a : Action}
    (sent : ∀ e ∈ arrivals [a], e.2.path ≠ (posts sub).path →
      ¬ (posts sub).router.Dispatches (posts sub).path e.2.path) :
    Alongside start (posts sub) (f.act (fun k => (posts k).router) (sub, a))
      (w.act (posts sub).router a) := by
  obtain ⟨level, own⟩ := act_follows (w := ⟨f.telemetry, f.exchanges sub⟩) h.level h.own
    (fun request => calm.secret) sent
  refine ⟨(recorder_act _ _ a).trans h.recorder, level, ?_, ?_⟩
  · rw [Fleet.exchanges_act, if_pos rfl]
    exact own
  · intro other apart
    rw [Fleet.exchanges_act, if_neg apart]
    exact h.foreign other apart

/-- The router of another subsystem acts. -/
theorem Alongside.act_other (h : Alongside start (posts sub) f w) {other : String}
    (apart : other ≠ sub) (member : sub ∈ subs) (calm : (posts other).Calm subs start.recorder)
    (a : Action) :
    Alongside start (posts sub) (f.act (fun k => (posts k).router) (other, a)) w := by
  have ignores := calm.ignores_router member apart.symm
  rw [← h.recorder] at ignores
  obtain ⟨level, foreign⟩ := act_leaves (w := ⟨f.telemetry, f.exchanges other⟩) h.level
    (h.foreign other apart) ignores a
  refine ⟨(recorder_act _ _ a).trans h.recorder, level, ?_, ?_⟩
  · rw [Fleet.exchanges_act, if_neg apart.symm]
    exact h.own
  · intro third elsewhere
    rw [Fleet.exchanges_act]
    split
    · exact foreign
    · exact h.foreign third elsewhere

theorem Alongside.actAll {steps : List (String × Action)} (h : Alongside start (posts sub) f w)
    (member : sub ∈ subs) (calm : ∀ k ∈ subs, (posts k).Calm subs start.recorder)
    (known : ∀ s ∈ steps, s.1 ∈ subs)
    (sent : ∀ e ∈ arrivals (actionsOf sub steps), e.2.path ≠ (posts sub).path →
      ¬ (posts sub).router.Dispatches (posts sub).path e.2.path) :
    Alongside start (posts sub) (f.actAll (fun k => (posts k).router) steps)
      (w.actAll (posts sub).router (actionsOf sub steps)) := by
  induction steps generalizing f w with
  | nil => exact h
  | cons step steps ih =>
      obtain ⟨k, a⟩ := step
      obtain ⟨here, known⟩ := List.forall_mem_cons.mp known
      by_cases own : k = sub
      · subst own
        have split : actionsOf k ((k, a) :: steps) = a :: actionsOf k steps := by simp [actionsOf]
        rw [split] at sent ⊢
        rw [← List.singleton_append, arrivals_append, List.forall_mem_append] at sent
        exact ih (h.act_own (calm k here) sent.1) known sent.2
      · have skip : actionsOf sub ((k, a) :: steps) = actionsOf sub steps := by
          simp [actionsOf, own]
        rw [skip] at sent ⊢
        exact ih (h.act_other own member (calm k here) a) known sent

end

/-! ## Runs in which others leave a trace -/

/-- A process with two subsystems on one registry, which shows the lowest samples only. -/
def pair : Telemetry :=
  let t := (Telemetry.addRegistry {} { quantiles := [0] }).1
  (RequestMeter.new (RequestMeter.new t 0 "a").1 0 "b").1

/-- Requests are served by the router of a subsystem, one after the other. -/
def serves (sub : String) (requests : List (Nat × Request)) : List (String × Action) :=
  requests.flatMap fun e => (serving e.1 e.2).map ((sub, ·))

/-- A process that records to the registry of two subsystems. -/
def recording : Telemetry := (pair.install 0).1

end TrafficMeter.Routing
