import TrafficMeter.Proofs.Metric.Alike
import TrafficMeter.Proofs.Routing.Isolation
import TrafficMeter.Proofs.Routing.Metering

/-!
# Two runs of a metered router

A run is compared with the run that is left of it when the requests for the exporter's path are
taken out. Step by step the two processes hold the same exchanges but for those requests, and the
same registries but for the order in which the samples of one of them are added up. Services that
the router itself has at the exporter's path change nothing, so the requests that are taken out do
not either.

Main statements: `Parallel.change`, that both keep pace with each other, and `takesTurns_answer`.
-/

namespace TrafficMeter.Routing

open TrafficMeter.Metric (Registry)
open TrafficMeter.Http (Request)
open TrafficMeter.Traffic

/-- One process goes on to another, and each registry is acted on by itself. -/
structure Acts (f : RegistryId → Registry → Registry) (t u : Telemetry) : Prop where
  recorder : u.recorder = t.recorder
  registries : ∀ place, u.registries[place]? = (t.registries[place]?).map (f place)

/-- Two processes whose registries at `own` are alike, and which hold the same registries
elsewhere. -/
structure Twins (own : RegistryId) (t u : Telemetry) : Prop where
  recorder : u.recorder = t.recorder
  alike : ∃ r s, t.registries[own]? = some r ∧ u.registries[own]? = some s ∧ r.Alike s
  same : ∀ place, place ≠ own → u.registries[place]? = t.registries[place]?

namespace Acts

variable {f : RegistryId → Registry → Registry} {t u v : Telemetry}

theorem refl (t : Telemetry) : Acts (fun _ r => r) t t := ⟨rfl, fun _ => by simp⟩

theorem settle (h : Acts f t u) (done : List Pending) :
    Acts (fun place r => (f place r).applyAll (writesTo place done)) t (u.settle done) where
  recorder := (u.recorder_settle done).trans h.recorder
  registries := by
    intro place
    rw [u.registries_settle, h.registries, Option.map_map]
    rfl

theorem respond (s : Service) (t : Telemetry) (request : Request)
    (captures : List (String × String)) (elapsed : Float) :
    Acts (s.effect t.recorder request captures) t (s.respond t request captures elapsed).1 :=
  ⟨recorder_respondThrough, registries_respondThrough⟩

end Acts

namespace Twins

variable {own : RegistryId} {f : RegistryId → Registry → Registry} {t t' u u' : Telemetry}

/-- Both go on alike. -/
theorem both (h : Twins own t u) (first : Acts f t t') (second : Acts f u u')
    (keeps : ∀ r s, r.Alike s → (f own r).Alike (f own s)) : Twins own t' u' where
  recorder := by rw [first.recorder, second.recorder, h.recorder]
  alike := by
    obtain ⟨r, s, hr, hs, alike⟩ := h.alike
    refine ⟨f own r, f own s, ?_, ?_, keeps r s alike⟩
    · rw [first.registries, hr, Option.map_some]
    · rw [second.registries, hs, Option.map_some]
  same := by
    intro place other
    rw [first.registries, second.registries, h.same place other]

/-- Only one goes on, and what it does cannot be seen. -/
theorem one (h : Twins own t u) (first : Acts f t t') (quiet : ∀ r, (f own r).Alike r)
    (unseen : ∀ place, place ≠ own → ∀ r, f place r = r) : Twins own t' u where
  recorder := by rw [first.recorder, h.recorder]
  alike := by
    obtain ⟨r, s, hr, hs, alike⟩ := h.alike
    refine ⟨f own r, s, ?_, hs, (quiet r).trans alike⟩
    rw [first.registries, hr, Option.map_some]
  same := by
    intro place other
    have still : f place = id := funext (unseen place other)
    rw [first.registries, h.same place other, still, Option.map_id, id]

end Twins

/-! ## Services that leave a registry alone -/

/-- A service neither shows the registry at a place nor writes to it. -/
structure Service.LeavesAlone (s : Service) (recorder : Option RegistryId) (place : RegistryId) :
    Prop where
  shows : s.core ≠ .exporter place
  writes : recorder = some place → ∀ h, s.core = .handler h →
    ∀ request captures, (h request captures).writes = []
  measures : ∀ m, .meter m ∈ s.layers → m.collectors.registry ≠ place

/-- The services of a router leave the registry of a meter alone, and those at the path of its
exporter leave all registries alone. -/
structure Undisturbed (m : RequestMeter) (recorder : Option RegistryId) (plain : Router) :
    Prop where
  own : ∀ s ∈ plain.services, s.LeavesAlone recorder m.collectors.registry
  idle : ∀ route ∈ plain.routes, route.path = m.exporterPath →
    ∀ s ∈ route.table.services, ∀ place, s.LeavesAlone recorder place

theorem Service.LeavesAlone.effect {s : Service} {recorder : Option RegistryId}
    {place : RegistryId} (h : s.LeavesAlone recorder place) (request : Request)
    (captures : List (String × String)) (r : Registry) :
    s.core.effect recorder request captures place r = r := by
  cases core : s.core with
  | handler handler =>
      rw [Core.effect]
      split
      · next here =>
          rw [h.writes here handler core]
          rfl
      · rfl
  | exporter id =>
      rw [Core.effect, if_neg]
      rintro rfl
      exact h.shows core

/-! ## One step of both runs -/

section

variable (m : RequestMeter)

/-- What an exchange hands out is for the meter, or at least not for its registry. An exchange for
the exporter's path hands nothing out. -/
def Harmless (x : Exchange) (q : Pending) : Prop :=
  x.request.path ≠ m.exporterPath ∧
    (q.collectors = m.collectors ∨ q.collectors.registry ≠ m.collectors.registry)

/-- The registry of the meter is the account of what has finished, and no exchange will hand out
anything that it should not. -/
structure Steady (start : Telemetry) (w : World) : Prop where
  recorder : w.telemetry.recorder = start.recorder
  balanced : ∀ x ∈ w.exchanges, x.Balanced m.collectors m.exporterPath
  harmless : ∀ x ∈ w.exchanges, ∀ q ∈ x.pending, Harmless m x q
  account : ∃ done : List Observation, done.Perm (w.finished m.exporterPath) ∧
    ∃ r, w.telemetry.registries[m.collectors.registry]? = some r ∧
      r.Alike ((start.registry m.collectors.registry).applyAll
        (done.flatMap m.collectors.writes))

/-- Both processes hold the same but for the requests for the exporter's path. -/
structure Parallel (start : Telemetry) (full kept : World) : Prop where
  steady : Steady m start full
  exchanges : kept.exchanges = full.exchanges.filter (·.request.path ≠ m.exporterPath)
  twins : Twins m.collectors.registry full.telemetry kept.telemetry

/-- How an exchange changes: the process first acts on its registries, and then the exchange hands
requests out. -/
structure Turn (x next : Exchange) (e : RegistryId → Registry → Registry) (handed : List Pending) :
    Prop where
  hands : ∃ owed, Hands m.collectors m.exporterPath owed x next handed ∧
    ∀ q ∈ owed, Harmless m x q
  quiet : ∀ r, (e m.collectors.registry r).Alike r
  unseen : x.request.path = m.exporterPath →
    ∀ place, place ≠ m.collectors.registry → ∀ r, e place r = r

end

variable {m : RequestMeter} {start : Telemetry} {full kept : World}
  {x next : Exchange} {e : RegistryId → Registry → Registry} {handed : List Pending}

theorem Harmless.of_stem {q p : Pending} (h : Harmless m x p)
    (same : q.collectors = p.collectors) (kept : next.request = x.request) :
    Harmless m next q := by
  rw [Harmless, same, kept]
  exact h

/-- What is handed out is what is due to the meter, as far as its registry goes. -/
theorem Turn.writesTo (turn : Turn m x next e handed) :
    writesTo m.collectors.registry handed =
      (m.collectors.due handed).flatMap m.collectors.writes := by
  obtain ⟨owed, hands, harmless⟩ := turn.hands
  refine writesTo_own fun q member => ?_
  obtain ⟨p, inside, same⟩ := hands.stems q (.inl member)
  rw [same]
  exact (harmless p inside).2

/-- A request for the exporter's path hands nothing out. -/
theorem Turn.handed_eq_nil (turn : Turn m x next e handed)
    (own : x.request.path = m.exporterPath) : handed = [] := by
  obtain ⟨owed, hands, harmless⟩ := turn.hands
  refine List.eq_nil_iff_forall_not_mem.mpr fun q member => ?_
  obtain ⟨p, inside, -⟩ := hands.stems q (.inl member)
  exact (harmless p inside).1 own

variable {before after : List Exchange} {t u : Telemetry}

/-- One exchange takes its turn. -/
theorem Steady.turn (h : Steady m start ⟨t, before ++ x :: after⟩)
    (turn : Turn m x next e handed) (acts : Acts e t u) :
    Steady m start ⟨u.settle handed, before ++ next :: after⟩ := by
  obtain ⟨owed, hands, harmless⟩ := turn.hands
  have settled := acts.settle handed
  refine ⟨settled.recorder.trans h.recorder, forall_mem_change h.balanced hands.balanced,
    forall_mem_change h.harmless ?_, ?_⟩
  · intro q member
    obtain ⟨p, inside, same⟩ := hands.stems q (.inr member)
    exact (harmless p inside).of_stem same hands.request
  · obtain ⟨done, all, r, found, alike⟩ := h.account
    refine ⟨done ++ m.collectors.due handed, finished_change all hands.request hands.finished,
      (e m.collectors.registry r).applyAll (writesTo m.collectors.registry handed), ?_, ?_⟩
    · rw [settled.registries, found, Option.map_some]
    · rw [turn.writesTo, List.flatMap_append, Registry.applyAll, Registry.applyAll,
        List.foldl_append]
      exact ((turn.quiet r).trans alike).applyAll _

/-- A request for the exporter's path takes its turn in one of the runs only. -/
theorem Parallel.turn_own (h : Parallel m start ⟨t, before ++ x :: after⟩ kept)
    (turn : Turn m x next e handed) (acts : Acts e t u)
    (own : x.request.path = m.exporterPath) :
    Parallel m start ⟨u.settle handed, before ++ next :: after⟩ kept := by
  have steady := h.steady.turn turn acts
  obtain rfl := turn.handed_eq_nil own
  obtain ⟨owed, hands, -⟩ := turn.hands
  refine ⟨steady, ?_, ?_⟩
  · have same : next.request.path = m.exporterPath := by rw [hands.request, own]
    simpa [own, same] using h.exchanges
  · exact h.twins.one acts turn.quiet (turn.unseen own)

/-- Any other request takes its turn in both runs. -/
theorem Parallel.turn_other (h : Parallel m start ⟨t, before ++ x :: after⟩ kept)
    (turn : Turn m x next e handed) (acts : Acts e t u) {v : Telemetry}
    (again : Acts e kept.telemetry v) (other : x.request.path ≠ m.exporterPath) :
    Parallel m start ⟨u.settle handed, before ++ next :: after⟩
      ⟨v.settle handed, before.filter (·.request.path ≠ m.exporterPath) ++
        next :: after.filter (·.request.path ≠ m.exporterPath)⟩ := by
  obtain ⟨owed, hands, -⟩ := turn.hands
  refine ⟨h.steady.turn turn acts, ?_, ?_⟩
  · have same : next.request.path ≠ m.exporterPath := by rw [hands.request]; exact other
    simp [same]
  · refine h.twins.both (acts.settle handed) (again.settle handed) ?_
    intro r s alike
    exact (((turn.quiet r).trans alike).trans (turn.quiet s).symm).applyAll _

/-- Whatever changes an exchange, it is a turn, and for any other path it is the same turn in both
processes. -/
def TakesTurns (m : RequestMeter) (t : Telemetry)
    (f : Telemetry → Exchange → Telemetry × Exchange) (x : Exchange) : Prop :=
  ∃ next e handed, Turn m x next e handed ∧
    ∀ v : Telemetry, v.recorder = t.recorder →
      (v = t ∨ x.request.path ≠ m.exporterPath ∧
        ∀ place, place ≠ m.collectors.registry → v.registries[place]? = t.registries[place]?) →
      ∃ u, Acts e v u ∧ f v x = (u.settle handed, next)

/-- An exchange for the exporter's path is changed in one of the processes, any other in both. -/
theorem Parallel.change (h : Parallel m start full kept) {id : Nat}
    {f : Telemetry → Exchange → Telemetry × Exchange}
    (turns : ∀ x ∈ full.exchanges, TakesTurns m full.telemetry f x) {own : Prop}
    (aimed : ∀ before x after, full.exchanges = before ++ x :: after →
      (∀ y ∈ before, y.id ≠ id) → x.id = id → (own ↔ x.request.path = m.exporterPath)) :
    (own → Parallel m start (full.change id f) kept) ∧
      (¬ own → Parallel m start (full.change id f) (kept.change id f)) := by
  obtain ⟨t, exchanges⟩ := full
  rcases exists_first id exchanges with none | ⟨before, x, after, rfl, others, found⟩
  · have still : World.change ⟨t, exchanges⟩ id f = ⟨t, exchanges⟩ := by
      rw [World.change, changeFirst_of_none none]
    have absent : ∀ x ∈ kept.exchanges, x.id ≠ id := by
      rw [h.exchanges]
      exact fun x member => none x (List.mem_filter.mp member).1
    have idle : kept.change id f = kept := by rw [World.change, changeFirst_of_none absent]
    rw [still, idle]
    exact ⟨fun _ => h, fun _ => h⟩
  · have sent := aimed before x after rfl others found
    obtain ⟨next, e, handed, turn, moves⟩ := turns x (by simp)
    obtain ⟨u, acts, moved⟩ := moves t rfl (.inl rfl)
    have changed : World.change ⟨t, before ++ x :: after⟩ id f =
        ⟨u.settle handed, before ++ next :: after⟩ := by
      rw [World.change, changeFirst_of_first after others found, moved]
    rw [changed]
    constructor
    · intro own
      exact h.turn_own turn acts (sent.mp own)
    · intro other
      have elsewhere : x.request.path ≠ m.exporterPath := fun own => other (sent.mpr own)
      obtain ⟨v, again, moved⟩ :=
        moves kept.telemetry h.twins.recorder (.inr ⟨elsewhere, h.twins.same⟩)
      have later : ∀ y ∈ before.filter (·.request.path ≠ m.exporterPath), y.id ≠ id :=
        fun y member => others y (List.mem_filter.mp member).1
      have split : kept.exchanges = before.filter (·.request.path ≠ m.exporterPath) ++
          x :: after.filter (·.request.path ≠ m.exporterPath) := by
        rw [h.exchanges]
        simp [elsewhere]
      have follows : kept.change id f = ⟨v.settle handed,
          before.filter (·.request.path ≠ m.exporterPath) ++
            next :: after.filter (·.request.path ≠ m.exporterPath)⟩ := by
        rw [World.change, split, changeFirst_of_first _ later found, moved]
      rw [follows]
      exact h.turn_other turn acts again elsewhere

/-- A body is only polled and dropped, which acts on no registry by itself. -/
theorem takesTurns_of_hands {f : Telemetry → Exchange → Telemetry × Exchange}
    (hands : ∃ next handed, (∀ t, f t x = (t.settle handed, next)) ∧
      Hands m.collectors m.exporterPath x.pending x next handed)
    (harmless : ∀ q ∈ x.pending, Harmless m x q) (t : Telemetry) :
    TakesTurns m t f x := by
  obtain ⟨next, handed, moved, hands⟩ := hands
  refine ⟨next, fun _ r => r, handed, ⟨⟨_, hands, harmless⟩, .refl, fun _ _ _ _ => rfl⟩, ?_⟩
  intro v _ _
  exact ⟨v, .refl v, moved v⟩

/-! ## Answers -/

/-- What is known of the service behind the meter that a request goes to. -/
structure Tame (m : RequestMeter) (recorder : Option RegistryId) (request : Request)
    (s : Service) : Prop where
  quiet : ∀ captures r,
    (s.core.effect recorder request captures m.collectors.registry r).Alike r
  unseen : request.path = m.exporterPath → ∀ place, place ≠ m.collectors.registry →
    ∀ captures r, s.core.effect recorder request captures place r = r
  foreign : ∀ other, .meter other ∈ s.layers →
    request.path ≠ m.exporterPath ∧ other.collectors.registry ≠ m.collectors.registry
  shown : request.path ≠ m.exporterPath → s.core ≠ .exporter m.collectors.registry

variable {accounts : Option Auth.Accounts} {plain metered : Router} {recorder : Option RegistryId}
  {request : Request}

theorem exporter_tame (own : request.path = m.exporterPath) :
    Tame m recorder request (m.exporter accounts) := by
  refine ⟨?_, ?_, ?_, fun other => absurd own other⟩
  · intro captures r
    rw [m.core_exporter, Core.effect, if_pos rfl]
    exact Registry.alike_tally r
  · intro _ place other captures r
    rw [m.core_exporter, Core.effect, if_neg other.symm]
  · exact fun other layer => absurd layer RequestMeter.meter_not_mem_exporter

/-- A handler that writes nothing leaves every registry alone. -/
theorem leavesAlone_ofHandler {h : Handler}
    (silent : ∀ request captures, (h request captures).writes = []) (place : RegistryId) :
    (Service.ofHandler h).LeavesAlone recorder place where
  shows := by simp [Service.ofHandler]
  writes := by
    rintro - other same request captures
    cases same
    exact silent request captures
  measures := by simp [Service.ofHandler]

/-- A service for the path of the exporter that leaves all registries alone has no effect. -/
theorem tame_of_idle {s : Service} (own : request.path = m.exporterPath)
    (idle : ∀ place, s.LeavesAlone recorder place) : Tame m recorder request s where
  quiet := by
    intro captures r
    rw [(idle _).effect]
    exact .refl r
  unseen := fun _ place _ captures r => (idle place).effect request captures r
  foreign := fun other inside => absurd rfl ((idle _).measures other inside)
  shown := fun other => absurd own other

/-- A service of the router itself is asked for other paths only, and leaves the registry alone. -/
theorem tame_of_leavesAlone {s : Service} (other : request.path ≠ m.exporterPath)
    (alone : s.LeavesAlone recorder m.collectors.registry) : Tame m recorder request s where
  quiet := by
    intro captures r
    rw [alone.effect]
    exact .refl r
  unseen := fun own => absurd own other
  foreign := fun meter inside => ⟨other, alone.measures meter inside⟩
  shown := fun _ => alone.shows

/-- Whatever service a request goes to is tame. -/
theorem exists_tame (built : plain.Built) (calm : Undisturbed m recorder plain)
    {t : Telemetry} (done : (m.attach accounts t plain).2 = .ok metered)
    (sole : request.path ≠ m.exporterPath → ¬ metered.Dispatches m.exporterPath request.path) :
    ∃ inner : Service, (metered.select request).1.service = inner.wrap m.layer ∧
      Tame m recorder request inner := by
  obtain ⟨inner, chosen, origin⟩ := RequestMeter.select_attach done request
  refine ⟨inner, chosen, ?_⟩
  by_cases own : request.path = m.exporterPath
  · obtain ⟨route, captures, joins, found⟩ := RequestMeter.find?_exporterPath built done
    have sent : metered.Dispatches m.exporterPath request.path := by
      rw [own]
      exact ⟨_, captures, found, joins.1⟩
    rcases origin with ⟨-, elsewhere⟩ | ⟨-, ⟨rfl, -⟩ | rfl | ⟨route, there, here, inside⟩⟩
    · exact absurd sent elsewhere
    · exact exporter_tame own
    · exact tame_of_idle own (leavesAlone_ofHandler fun _ _ => rfl)
    · exact tame_of_idle own (calm.idle route there here inner inside)
  · rcases origin with ⟨old, -⟩ | ⟨sent, -⟩
    · exact tame_of_leavesAlone own (calm.own inner old)
    · exact absurd sent (sole own)

namespace Tame

variable {inner : Service}

theorem effect_alike (tame : Tame m recorder request inner)
    (captures : List (String × String)) (r : Registry) :
    ((inner.wrap m.layer).effect recorder request captures m.collectors.registry r).Alike r := by
  rw [Service.effect]
  split
  · exact tame.quiet captures r
  · exact .refl r

theorem effect_eq (tame : Tame m recorder request inner) (own : request.path = m.exporterPath)
    {place : RegistryId} (other : place ≠ m.collectors.registry)
    (captures : List (String × String)) (r : Registry) :
    (inner.wrap m.layer).effect recorder request captures place r = r := by
  rw [Service.effect]
  split
  · exact tame.unseen own place other captures r
  · rfl

/-- The response holds nothing that it should not. -/
theorem harmless (tame : Tame m recorder request inner) {t : Telemetry}
    {captures : List (String × String)} {elapsed : Float} {response : Response}
    (answered : ((inner.wrap m.layer).respond t request captures elapsed).2 = .ok response)
    (id : Nat) (stage : Stage) :
    ∀ q ∈ response.body.close, Harmless m ⟨id, request, stage⟩ q := by
  intro q member
  obtain ⟨other, inside, elsewhere, same⟩ := mem_close_respondThrough answered q member
  rw [Harmless, same]
  rcases List.mem_cons.mp inside with own | inside
  · cases own
    exact ⟨elsewhere, .inl rfl⟩
  · exact (tame.foreign other inside).imp_right .inr

/-- Elsewhere the response is the same in all processes that hold the same other registries. -/
theorem respond_congr (tame : Tame m recorder request inner)
    (elsewhere : request.path ≠ m.exporterPath) {t v : Telemetry}
    (same : ∀ place, place ≠ m.collectors.registry → v.registries[place]? = t.registries[place]?)
    (captures : List (String × String)) (elapsed : Float) :
    ((inner.wrap m.layer).respond v request captures elapsed).2 =
      ((inner.wrap m.layer).respond t request captures elapsed).2 := by
  refine respondThrough_congr fun place shows => ?_
  have other : place ≠ m.collectors.registry := by
    rintro rfl
    exact tame.shown elsewhere shows
  rw [Telemetry.registry, Telemetry.registry, same place other]

end Tame

theorem takesTurns_waiting (built : plain.Built) (calm : Undisturbed m recorder plain)
    {t₀ : Telemetry} (done : (m.attach accounts t₀ plain).2 = .ok metered)
    (sole : request.path ≠ m.exporterPath → ¬ metered.Dispatches m.exporterPath request.path)
    (id : Nat) (elapsed : Float) {t : Telemetry} (records : t.recorder = recorder) :
    TakesTurns m t (Exchange.answer metered elapsed) ⟨id, request, .waiting⟩ := by
  obtain ⟨inner, chosen, tame⟩ := exists_tame built calm done sole
  have apart : ∀ other, .meter other ∈ inner.layers → other.collectors.Apart m.collectors :=
    fun other member same => absurd same (tame.foreign other member).2
  obtain ⟨next, handed, answered, hands⟩ := answer_hands metered elapsed id fun response
      (answered : ((inner.wrap m.layer).respond t request (metered.select request).2 elapsed).2 =
        .ok response) => respond_owes rfl apart answered
  rw [chosen] at answered
  generalize (metered.select request).2 = captures at answered hands
  refine ⟨next, (inner.wrap m.layer).effect t.recorder request captures, handed,
    ⟨⟨_, hands, ?_⟩, ?_, ?_⟩, ?_⟩
  · intro q member
    obtain ⟨response, here, inside⟩ := mem_owedBy member
    exact tame.harmless here id .waiting q inside
  · rw [records]
    exact tame.effect_alike captures
  · intro own place other r
    rw [records]
    exact tame.effect_eq own other captures r
  · intro v together same
    refine ⟨_, together ▸ .respond _ v request captures elapsed, answered v _ (Prod.ext rfl ?_)⟩
    rcases same with rfl | ⟨other, same⟩
    · rfl
    · exact tame.respond_congr other same captures elapsed

/-- An answer is a turn. -/
theorem takesTurns_answer (built : plain.Built) (calm : Undisturbed m recorder plain)
    {t₀ : Telemetry} (done : (m.attach accounts t₀ plain).2 = .ok metered) {x : Exchange}
    (sole : x.request.path ≠ m.exporterPath →
      ¬ metered.Dispatches m.exporterPath x.request.path)
    (balanced : x.Balanced m.collectors m.exporterPath)
    (harmless : ∀ q ∈ x.pending, Harmless m x q)
    (elapsed : Float) {t : Telemetry} (records : t.recorder = recorder) :
    TakesTurns m t (Exchange.answer metered elapsed) x := by
  obtain ⟨id, request, stage⟩ := x
  cases stage with
  | waiting => exact takesTurns_waiting built calm done sole id elapsed records
  | crashed | opened answer body ended | closed answer =>
      exact takesTurns_of_hands ⟨_, [], fun _ => rfl, hands_self balanced⟩ harmless t

end TrafficMeter.Routing
