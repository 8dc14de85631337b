import TrafficMeter.Proofs.Routing.Scraping
import TrafficMeter.Proofs.Routing.Twins

/-!
# Requests that leave no trace

Requests for the path of the exporter, whatever becomes of them, can be taken out of a run: all
other responses stay the same, and so does the registry, but for the order in which its samples are
added up. In this order a page does leave a trace, since rounded sums depend on it. The handlers of
the application may remember what they were asked, but if they have the path of the exporter as
well, what they are asked there must change nothing: it could be seen elsewhere.

Main statements: `untraced_own_requests`, the law of the two runs, `page_reorders_samples`, where
they differ, and `own_handler_leaves_trace`, what a handler at the path of the exporter can do.
-/

namespace TrafficMeter.Routing

open TrafficMeter.Metric (Registry Page)
open TrafficMeter.Http (Request)
open TrafficMeter.Traffic

/-- The requests that arrive, with the ids of their exchanges. -/
def arrivals (actions : List Action) : List (Nat × Request) :=
  actions.filterMap fun
    | .arrive id request => some (id, request)
    | .answer _ _ | .poll _ | .drop _ => none

/-- The path of the exchange of an id. -/
def pathOf? (actions : List Action) (id : Nat) : Option String :=
  ((arrivals actions).find? (·.1 = id)).map (·.2.path)

/-- An action is about a request for a path. -/
def Action.About (path : String) (actions : List Action) : Action → Prop
  | .arrive _ request => request.path = path
  | .answer id _ | .poll id | .drop id => pathOf? actions id = some path

instance (path : String) (actions : List Action) :
    DecidablePred (Action.About path actions) := by
  intro a
  cases a <;> unfold Action.About <;> infer_instance

/-- The actions that are about requests for other paths. -/
def without (path : String) (actions : List Action) : List Action :=
  actions.filter fun a => ¬ a.About path actions

/-- The requests of a process, with the ids of their exchanges. -/
def World.requests (w : World) : List (Nat × Request) :=
  w.exchanges.map fun x => (x.id, x.request)

/-! ## Runs -/

theorem requests_change {f : Telemetry → Exchange → Telemetry × Exchange} (keeps : KeepsRequest f)
    (w : World) (id : Nat) : (w.change id f).requests = w.requests := by
  obtain ⟨t, exchanges⟩ := w
  rw [World.change]
  rcases changeFirst_cases id f t exchanges with same | ⟨before, x, after, rfl, -, changed⟩
  · rw [same]
  · rw [changed]
    simp [World.requests, keeps t x]

theorem arrivals_append (first rest : List Action) :
    arrivals (first ++ rest) = arrivals first ++ arrivals rest :=
  List.filterMap_append

/-- Every action leaves the requests as they are, but for the one that arrives. -/
theorem requests_act (r : Router) (w : World) (a : Action) :
    (w.act r a).requests = w.requests ++ arrivals [a] := by
  cases a with
  | arrive id request => simp [World.act, World.requests, arrivals]
  | answer id elapsed =>
      rw [World.act, requests_change (keepsRequest_answer r elapsed)]
      exact (List.append_nil _).symm
  | poll id =>
      rw [World.act, requests_change keepsRequest_poll]
      exact (List.append_nil _).symm
  | drop id =>
      rw [World.act, requests_change keepsRequest_drop]
      exact (List.append_nil _).symm

/-- The path of an id is that of its first exchange. -/
theorem pathOf?_eq {actions : List Action} {later : List (Nat × Request)} {before : List Exchange}
    {x : Exchange} {after : List Exchange} {id : Nat}
    (all : ((before ++ x :: after).map fun y => (y.id, y.request)) ++ later = arrivals actions)
    (others : ∀ y ∈ before, y.id ≠ id) (own : x.id = id) :
    pathOf? actions id = some x.request.path := by
  have none : (before.map fun y => (y.id, y.request)).find? (·.1 = id) = none := by
    rw [List.find?_eq_none]
    intro e member
    obtain ⟨y, inside, rfl⟩ := List.mem_map.mp member
    simpa using others y inside
  rw [pathOf?, ← all, List.map_append, List.append_assoc, List.find?_append, none]
  simp [own]

variable {m : RequestMeter} {plain metered : Router} {accounts : Option Auth.Accounts}
  {t start : Telemetry} {full kept : World}

/-- Requests that come in have handed out nothing yet. -/
theorem Parallel.arrive (h : Parallel m start full kept) (id : Nat) (request : Request) :
    (request.path = m.exporterPath →
      Parallel m start (full.act metered (.arrive id request)) kept) ∧
    (request.path ≠ m.exporterPath →
      Parallel m start (full.act metered (.arrive id request))
        (kept.act metered (.arrive id request))) := by
  have steady : Steady m start (full.act metered (.arrive id request)) := by
    obtain ⟨recorder, balanced, harmless, done, all, shown⟩ := h.steady
    refine ⟨recorder, ?_, ?_, done, ?_, shown⟩
    · exact List.forall_mem_append.mpr ⟨balanced, List.forall_mem_singleton.mpr trivial⟩
    · exact List.forall_mem_append.mpr ⟨harmless, List.forall_mem_singleton.mpr nofun⟩
    · simpa [World.act, World.finished, Exchange.finished, Exchange.finished?] using all
  constructor
  · intro own
    refine ⟨steady, ?_, h.twins⟩
    simp [World.act, h.exchanges, own]
  · intro other
    refine ⟨steady, ?_, h.twins⟩
    simp [World.act, h.exchanges, other]

/-- An action is about the exporter's path if the exchange that it changes is. -/
theorem aimed_of_requests {w : World} {actions : List Action} {later : List (Nat × Request)}
    (left : w.requests ++ later = arrivals actions) {id : Nat} {before after : List Exchange}
    {x : Exchange} (here : w.exchanges = before ++ x :: after) (others : ∀ y ∈ before, y.id ≠ id)
    (own : x.id = id) (path : String) :
    pathOf? actions id = some path ↔ x.request.path = path := by
  rw [World.requests, here] at left
  rw [pathOf?_eq left others own, Option.some.injEq]

/-- An action is carried out by both processes, or by one if it is about the exporter's path. -/
theorem Parallel.act (built : plain.Built) (calm : Undisturbed m start.recorder plain)
    (done : (m.attach accounts t plain).2 = .ok metered) {actions : List Action}
    (sole : ∀ a ∈ arrivals actions, a.2.path ≠ m.exporterPath →
      ¬ metered.Dispatches m.exporterPath a.2.path)
    (h : Parallel m start full kept) {later : List (Nat × Request)}
    (left : full.requests ++ later = arrivals actions) (a : Action) :
    (a.About m.exporterPath actions → Parallel m start (full.act metered a) kept) ∧
      (¬ a.About m.exporterPath actions →
        Parallel m start (full.act metered a) (kept.act metered a)) := by
  have aimed : ∀ {id} before x after, full.exchanges = before ++ x :: after →
      (∀ y ∈ before, y.id ≠ id) → x.id = id →
      (pathOf? actions id = some m.exporterPath ↔ x.request.path = m.exporterPath) :=
    fun _ _ _ here others own => aimed_of_requests left here others own m.exporterPath
  have arrived : ∀ x ∈ full.exchanges, x.request.path ≠ m.exporterPath →
      ¬ metered.Dispatches m.exporterPath x.request.path := by
    intro x member
    refine sole (x.id, x.request) ?_
    rw [← left]
    exact List.mem_append_left _ (List.mem_map_of_mem member)
  cases a with
  | arrive id request => exact h.arrive id request
  | answer id elapsed =>
      refine h.change (fun x member => ?_) aimed
      exact takesTurns_answer built calm done (arrived x member)
        (h.steady.balanced x member) (h.steady.harmless x member) elapsed h.steady.recorder
  | poll id =>
      refine h.change (fun x member => ?_) aimed
      exact takesTurns_of_hands (poll_hands (h.steady.balanced x member))
        (h.steady.harmless x member) _
  | drop id =>
      refine h.change (fun x member => ?_) aimed
      exact takesTurns_of_hands (drop_hands (h.steady.balanced x member))
        (h.steady.harmless x member) _

/-! ## Applications that remember -/

/-- An application: its router, once its handlers have been asked some requests. What they answer
may depend on all of these, and so may the routes. -/
abbrev Application := List Request → Router

/-- The request of an exchange whose handler has not returned. -/
def Exchange.waiting? (x : Exchange) : Option Request :=
  match x.stage with
  | .waiting => some x.request
  | .crashed | .opened _ _ _ | .closed _ => none

/-- The request that a handler is asked by an action. -/
def World.asked? (w : World) : Action → Option Request
  | .answer id _ => (w.exchanges.find? (·.id = id)).bind Exchange.waiting?
  | .arrive _ _ | .poll _ | .drop _ => none

/-- A process of an application, and the requests that its handlers have been asked. -/
structure Session where
  world : World
  past : List Request := []

namespace Session

/-- Carries out an action. If a handler of the application is asked a request for the path of the
exporter, the application does not remember it. -/
def act (app : Application) (path : String) (s : Session) (a : Action) : Session :=
  { world := s.world.act (app s.past) a
    past := s.past ++ ((s.world.asked? a).filter (·.path ≠ path)).toList }

/-- What becomes of an application that starts with nothing under way. -/
def after (app : Application) (path : String) (start : Telemetry) (actions : List Action) :
    Session :=
  actions.foldl (act app path) { world := { telemetry := start } }

/-- An application that remembers nothing is a router. -/
theorem world_after (r : Router) (path : String) (start : Telemetry) (actions : List Action) :
    (after (fun _ => r) path start actions).world = World.after r start actions := by
  have go : ∀ s : Session,
      (actions.foldl (act (fun _ => r) path) s).world = s.world.actAll r actions := by
    induction actions with
    | nil => exact fun s => rfl
    | cons a rest ih => exact fun s => ih (s.act (fun _ => r) path a)
  exact go { world := { telemetry := start } }

/-- Two processes of an application keep pace, and its handlers have been asked the same. -/
structure Abreast (m : RequestMeter) (start : Telemetry) (full kept : Session) : Prop where
  world : Parallel m start full.world kept.world
  past : kept.past = full.past

end Session

/-- Handlers are asked the same in both processes, but for requests for the exporter's path. -/
theorem Parallel.asked (h : Parallel m start full kept) {actions : List Action}
    {later : List (Nat × Request)} (left : full.requests ++ later = arrivals actions) (a : Action) :
    (a.About m.exporterPath actions → (full.asked? a).filter (·.path ≠ m.exporterPath) = none) ∧
      (¬ a.About m.exporterPath actions → kept.asked? a = full.asked? a) := by
  cases a with
  | arrive id request | poll id | drop id => exact ⟨fun _ => rfl, fun _ => rfl⟩
  | answer id elapsed =>
      rw [World.asked?, World.asked?, h.exchanges]
      rcases exists_first id full.exchanges with none | ⟨before, x, after, here, others, own⟩
      · have absent : full.exchanges.find? (·.id = id) = Option.none := by simpa using none
        have gone : (full.exchanges.filter (·.request.path ≠ m.exporterPath)).find? (·.id = id) =
            Option.none := by
          rw [List.find?_eq_none] at absent ⊢
          exact fun y member => absent y (List.mem_filter.mp member).1
        rw [absent, gone]
        exact ⟨fun _ => rfl, fun _ => rfl⟩
      · have aimed := aimed_of_requests left here others own m.exporterPath
        have first : ∀ {xs : List Exchange} (rest : List Exchange), (∀ y ∈ xs, y.id ≠ id) →
            (xs ++ x :: rest).find? (·.id = id) = some x := by
          intro xs rest others
          have absent : xs.find? (·.id = id) = Option.none := by simpa using others
          rw [List.find?_append, absent, List.find?_cons_of_pos (by simpa using own)]
          rfl
        rw [here, first after others, Option.bind_some]
        constructor
        · intro about
          have path := aimed.mp about
          rw [Exchange.waiting?]
          split
          · simp [path]
          all_goals rfl
        · intro other
          have path : x.request.path ≠ m.exporterPath := fun same => other (aimed.mpr same)
          have later : ∀ y ∈ before.filter (·.request.path ≠ m.exporterPath), y.id ≠ id :=
            fun y member => others y (List.mem_filter.mp member).1
          rw [List.filter_append, List.filter_cons, if_pos (by simpa using path), first _ later,
            Option.bind_some]

section

variable {app bare : Application} {s k : Session}

/-- An application goes on in both processes, or in one if the action is about the exporter's
path. -/
theorem Session.Abreast.act (built : ∀ past, (bare past).Built)
    (calm : ∀ past, Undisturbed m start.recorder (bare past))
    (done : ∀ past, (m.attach accounts t (bare past)).2 = .ok (app past)) {actions : List Action}
    (sole : ∀ past, ∀ a ∈ arrivals actions, a.2.path ≠ m.exporterPath →
      ¬ (app past).Dispatches m.exporterPath a.2.path)
    (h : Abreast m start s k) {later : List (Nat × Request)}
    (left : s.world.requests ++ later = arrivals actions) (a : Action) :
    (a.About m.exporterPath actions → Abreast m start (s.act app m.exporterPath a) k) ∧
      (¬ a.About m.exporterPath actions →
        Abreast m start (s.act app m.exporterPath a) (k.act app m.exporterPath a)) := by
  have step := h.world.act (built s.past) (calm s.past) (done s.past) (sole s.past) left a
  have asked := h.world.asked left a
  constructor
  · intro about
    refine ⟨step.1 about, ?_⟩
    rw [Session.act, asked.1 about, h.past]
    exact (List.append_nil _).symm
  · intro other
    refine ⟨?_, ?_⟩
    · rw [Session.act, Session.act, h.past]
      exact step.2 other
    · rw [Session.act, Session.act, asked.2 other, h.past]

/-- What holds of both processes holds after any actions, if those about the exporter's path are
left out for one of them. -/
theorem Session.Abreast.actAll (built : ∀ past, (bare past).Built)
    (calm : ∀ past, Undisturbed m start.recorder (bare past))
    (done : ∀ past, (m.attach accounts t (bare past)).2 = .ok (app past)) {actions : List Action}
    (sole : ∀ past, ∀ a ∈ arrivals actions, a.2.path ≠ m.exporterPath →
      ¬ (app past).Dispatches m.exporterPath a.2.path)
    {rest : List Action} (h : Abreast m start s k)
    (left : s.world.requests ++ arrivals rest = arrivals actions) :
    Abreast m start (rest.foldl (Session.act app m.exporterPath) s)
      ((rest.filter fun a => ¬ a.About m.exporterPath actions).foldl
        (Session.act app m.exporterPath) k) := by
  induction rest generalizing s k with
  | nil => exact h
  | cons a rest ih =>
      have later : s.world.requests ++ (arrivals [a] ++ arrivals rest) = arrivals actions := by
        rw [← left, ← arrivals_append]
        rfl
      have next : (s.act app m.exporterPath a).world.requests ++ arrivals rest =
          arrivals actions := by
        rw [Session.act, requests_act, List.append_assoc, later]
      have step := h.act built calm done sole later a
      by_cases about : a.About m.exporterPath actions
      · rw [List.filter_cons, if_neg (by simpa using about)]
        exact ih (step.1 about) next
      · rw [List.filter_cons, if_pos (by simpa using about)]
        exact ih (step.2 about) next

end

/-! ## The law of the two runs -/

/-- The response that shows a registry. -/
def pageResponse (r : Registry) : Response :=
  let page := (Page.ofRegistry r).text
  { status := 200
    headers := [("content-type", pageContentType),
      ("content-length", Decimal.natural page.utf8ByteSize)]
    body := .plain (.whole page) }

/-- Only requests for the exporter's own path are sent there. -/
def OwnPathOnly (m : RequestMeter) (metered : Router) (actions : List Action) : Prop :=
  ':' ∉ m.exporterPath.toList ∧ '*' ∉ m.exporterPath.toList ∨
    ∀ a ∈ arrivals actions, a.2.path ≠ m.exporterPath →
      ¬ metered.Dispatches m.exporterPath a.2.path

/-- What is expected of a run of a metered application and of the same run without the requests for
the path of the exporter. -/
structure Untraced (m : RequestMeter) (accounts : Option Auth.Accounts) (metered : Application)
    (start : Telemetry) (full kept : Session) : Prop where
  /-- The registry is the same up to the order in which samples are added up. -/
  registry : (full.world.telemetry.registry m.collectors.registry).Alike
    (kept.world.telemetry.registry m.collectors.registry)
  /-- All other registries are the same. -/
  others : ∀ place, place ≠ m.collectors.registry →
    kept.world.telemetry.registries[place]? = full.world.telemetry.registries[place]?
  /-- The handlers have been asked the same, in the same order. -/
  past : kept.past = full.past
  /-- Every other exchange is as far as it is, with the same response. -/
  exchanges : kept.world.exchanges =
    full.world.exchanges.filter (·.request.path ≠ m.exporterPath)
  /-- Every other request is answered the same from now on. -/
  answers : ∀ request elapsed, request.path ≠ m.exporterPath →
    ¬ (metered full.past).Dispatches m.exporterPath request.path →
      ((metered full.past).respond full.world.telemetry request elapsed).2 =
        ((metered kept.past).respond kept.world.telemetry request elapsed).2
  /-- The registry is what the finished responses made of it. -/
  account : ∃ done : List Observation, done.Perm (full.world.finished m.exporterPath) ∧
    (full.world.telemetry.registry m.collectors.registry).Alike
      ((start.registry m.collectors.registry).applyAll (done.flatMap m.collectors.writes))
  /-- GET for the path of the exporter shows the registry to whom the gate lets through. -/
  page : ∀ request elapsed, request.path = m.exporterPath → request.method = "GET" →
    (∀ guard, accounts = some guard → ∃ user, guard.authorize request.headers = some user) →
      ((metered full.past).respond full.world.telemetry request elapsed).2 =
        .ok (pageResponse (full.world.telemetry.registry m.collectors.registry))

theorem OwnPathOnly.elsewhere (built : plain.Built)
    (done : (m.attach accounts t plain).2 = .ok metered) {actions : List Action}
    (sole : OwnPathOnly m metered actions) : ∀ a ∈ arrivals actions, a.2.path ≠ m.exporterPath →
      ¬ metered.Dispatches m.exporterPath a.2.path := by
  rcases sole with unmarked | elsewhere
  · intro a _ other sent
    have sentOnly := RequestMeter.dispatches_iff built done (Piece.no_mark_iff.mpr unmarked)
    exact other ((sentOnly a.2.path).mp sent)
  · exact elsewhere

theorem registry_of_get {t : Telemetry} {place : RegistryId} {r : Registry}
    (found : t.registries[place]? = some r) : t.registry place = r := by
  rw [Telemetry.registry, found, Option.getD_some]

/-- Before anything happens both processes are the same. -/
theorem parallel_start (inside : m.collectors.registry < start.registries.length) :
    Parallel m start { telemetry := start } { telemetry := start } := by
  have found : start.registries[m.collectors.registry]? =
      some (start.registry m.collectors.registry) := by
    rw [Telemetry.registry, List.getElem?_eq_getElem inside, Option.getD_some]
  have nothing : ∀ {P : Exchange → Prop}, ∀ x ∈ ([] : List Exchange), P x :=
    fun x none => absurd none List.not_mem_nil
  refine ⟨⟨rfl, nothing, nothing, [], .nil, _, found, .refl _⟩, rfl, rfl, ?_, fun _ _ => rfl⟩
  exact ⟨_, _, found, found, .refl _⟩

/-- What the exporter says to whom the gate lets through. -/
theorem respond_exporter {request : Request}
    (passes : ∀ guard, accounts = some guard →
      ∃ user, guard.authorize request.headers = some user)
    (captures : List (String × String)) (elapsed : Float) (u : Telemetry) :
    ((m.exporter accounts).respond u request captures elapsed).2 =
      .ok
        { status := 200
          headers := [("content-type", pageContentType)]
          body := .plain (.whole (Page.ofRegistry (u.registry m.collectors.registry)).text) } := by
  cases accounts with
  | none => rfl
  | some guard =>
      obtain ⟨user, known⟩ := passes guard rfl
      change (respondThrough _ request captures elapsed [.gate guard] u).2 = _
      rw [respondThrough, known]
      rfl

/-- The exporter shows the page to whom the gate lets through. -/
theorem respond_page (built : plain.Built) (done : (m.attach accounts t plain).2 = .ok metered)
    {request : Request} (own : request.path = m.exporterPath) (get : request.method = "GET")
    (passes : ∀ guard, accounts = some guard →
      ∃ user, guard.authorize request.headers = some user) (elapsed : Float) (u : Telemetry) :
    (metered.respond u request elapsed).2 =
      .ok (pageResponse (u.registry m.collectors.registry)) := by
  have chosen := RequestMeter.select_exporter built done own (.inl get)
  rw [get, show ("GET" == "HEAD") = false from rfl] at chosen
  have shown := respond_exporter (m := m) passes (metered.select request).2 elapsed u
  rw [← RequestMeter.respond_wrap_own own] at shown
  rw [Router.respond_of_select chosen shown]
  simp [Router.complete, Body.sizeHint, Http.Source.sizeHint, Http.SizeHint.exact?, pageResponse,
    Http.Headers.addNew, Http.Headers.first?]

/-- Requests for the path of the exporter leave no trace but in the order of samples, however the
handlers of the application depend on what they were asked before. -/
theorem untraced_own_requests {bare app : Application} (built : ∀ past, (bare past).Built)
    (done : ∀ past, m.attach accounts t (bare past) = (start, .ok (app past)))
    (inside : m.collectors.registry < start.registries.length)
    (calm : ∀ past, Undisturbed m start.recorder (bare past)) {actions : List Action}
    (sole : ∀ past, OwnPathOnly m (app past) actions) :
    Untraced m accounts app start (Session.after app m.exporterPath start actions)
      (Session.after app m.exporterPath start (without m.exporterPath actions)) := by
  have attached := fun past => congrArg Prod.snd (done past)
  have run : Session.Abreast m start (Session.after app m.exporterPath start actions)
      (Session.after app m.exporterPath start (without m.exporterPath actions)) :=
    Session.Abreast.actAll built calm attached
      (fun past => (sole past).elsewhere (built past) (attached past))
      ⟨parallel_start inside, rfl⟩ rfl
  obtain ⟨⟨steady, exchanges, twins⟩, past⟩ := run
  refine ⟨?_, twins.same, past, exchanges, ?_, ?_, ?_⟩
  · obtain ⟨r, s, hr, hs, alike⟩ := twins.alike
    rw [registry_of_get hr, registry_of_get hs]
    exact alike
  · intro request elapsed other elsewhere
    rw [past]
    obtain ⟨inner, chosen, tame⟩ := exists_tame (built _) (calm _) (attached _) fun _ => elsewhere
    refine Router.respond_congr fun captures => ?_
    rw [chosen]
    exact (tame.respond_congr other twins.same captures elapsed).symm
  · obtain ⟨finished, all, r, found, alike⟩ := steady.account
    refine ⟨finished, all, ?_⟩
    rw [registry_of_get found]
    exact alike
  · intro request elapsed own get passes
    exact respond_page (built _) (attached _) own get passes elapsed _

/-! ## A run in which the order shows -/

/-- A request comes in, is answered at once, and its response is dropped. -/
def serving (id : Nat) (request : Request) : List Action :=
  [.arrive id request, .answer id 1, .drop id]

/-- GET for a path with a body of a declared length. -/
def asking (path length : String) : Request :=
  { method := "GET", target := { path }, headers := [("content-length", length)] }

/-- A block of small requests, a scrape, and a request so large that all others together are lost
when they are added to it one by one. -/
def smallThenLarge : List Action :=
  ((List.range 64).flatMap fun id => serving id (asking "/x" "0")) ++
    serving 64 (asking "/metrics" "0") ++ serving 65 (asking "/x" "1152921504606846976")

/-- The sums of a page. -/
def sums (p : Page) : List String :=
  p.flatMap fun f => (f.series.flatten.filter (·.role == .sum)).map (·.value)

/-- An application that says how many requests it was asked before. -/
def counting : Application := fun past =>
  let count : Handler := .constant { source := .whole (Decimal.natural past.length) }
  Router.withFallback {} count

/-- This application behind a meter. -/
def meteredCounting : Application := fun past =>
  let exporter := MethodTable.single .get (sole.meter.exporter none)
  let own : Route := ⟨"/metrics", Piece.plain (Text.bytes "/metrics"), exporter⟩
  Router.wrap { counting past with routes := [own] } sole.meter.layer

theorem built_counting (past : List Request) : (counting past).Built := .withFallback .empty _

theorem attach_counting (past : List Request) :
    sole.meter.attach none sole.made (counting past) =
      (sole.attached, .ok (meteredCounting past)) := by
  have free : ∀ route ∈ (counting past).routes, route.path ≠ "/metrics" := nofun
  have added := (built_counting past).faithful.add_plain (by decide) (by decide) free
    (.single .get (sole.meter.exporter none))
  exact Prod.ext rfl (RequestMeter.attach_eq_ok_iff.mpr ⟨by decide, _, added, rfl⟩)

theorem undisturbed_counting (past : List Request) :
    Undisturbed sole.meter sole.attached.recorder (counting past) where
  own := by
    intro s member
    cases List.mem_singleton.mp member
    exact leavesAlone_ofHandler (fun _ _ => rfl) _
  idle := nofun

theorem ownPathOnly_sole (router : Router) (actions : List Action) :
    OwnPathOnly sole.meter router actions := .inl (by decide)

theorem untraced_smallThenLarge : Untraced sole.meter none meteredCounting sole.attached
    (Session.after meteredCounting "/metrics" sole.attached smallThenLarge)
    (Session.after meteredCounting "/metrics" sole.attached
      (without "/metrics" smallThenLarge)) :=
  untraced_own_requests built_counting attach_counting (by decide) undisturbed_counting
    fun past => ownPathOnly_sole _ _

/-- The page shows in its sums that there was a scrape. -/
theorem page_reorders_samples : ¬ ∀ (m : RequestMeter) (accounts : Option Auth.Accounts)
    (t start : Telemetry) (bare app : Application) (actions : List Action),
    (∀ past, (bare past).Built) →
    (∀ past, m.attach accounts t (bare past) = (start, .ok (app past))) →
    m.collectors.registry < start.registries.length →
    (∀ past, Undisturbed m start.recorder (bare past)) →
    (∀ past, OwnPathOnly m (app past) actions) →
    Page.ofRegistry ((Session.after app m.exporterPath start
        actions).world.telemetry.registry m.collectors.registry) =
      Page.ofRegistry ((Session.after app m.exporterPath start
        (without m.exporterPath actions)).world.telemetry.registry m.collectors.registry) := by
  intro always
  have same := congrArg sums (always sole.meter none sole.made sole.attached counting
    meteredCounting smallThenLarge built_counting attach_counting (by decide) undisturbed_counting
    fun past => ownPathOnly_sole _ _)
  revert same
  decide +kernel

/-! ## A handler at the path of the exporter -/

/-- A process that records to a second registry. -/
def besides : Telemetry :=
  { sole.made with
    registries := sole.made.registries ++ [Registry.empty]
    recorder := some 1 }

/-- A handler that counts its requests through the recorder. -/
def countingPosts : Handler := fun _ _ => { writes := [.add ⟨"posts", []⟩ 1], outcome := .ok {} }

/-- The services for what is posted at the path of the exporter. -/
def postingTable : MethodTable := .single .post (Service.ofHandler countingPosts)

/-- A route that shows the second registry. -/
def postsRoute : Route :=
  ⟨"/posts", Piece.plain (Text.bytes "/posts"), .single .get { core := .exporter 1 }⟩

/-- A router that counts what is posted at the path of the exporter, and shows the count. -/
def posting : Router :=
  { routes := [⟨"/metrics", Piece.plain (Text.bytes "/metrics"), postingTable⟩, postsRoute] }

theorem built_posting : posting.Built := by
  have first : Router.add {} "/metrics" postingTable = .ok _ :=
    Router.Built.empty.faithful.add_plain (by decide) (by decide) (by simp) postingTable
  have one := Router.Built.add .empty first
  have free : ∀ route ∈ posting.routes.take 1, route.path ≠ "/posts" := by decide
  exact one.add (one.faithful.add_plain (by decide) (by decide) free postsRoute.table)

/-- This router behind a meter, with the exporter at the same path. -/
def meteredPosting : Router :=
  let exporter := MethodTable.single .get (sole.meter.exporter none)
  let joined : MethodTable := { entries := postingTable.entries ++ exporter.entries }
  Router.wrap { routes := [⟨"/metrics", Piece.plain (Text.bytes "/metrics"), joined⟩, postsRoute] }
    sole.meter.layer

/-- Where the process starts from. -/
def besidesAttached : Telemetry := besides.note (.endpointAttached "/metrics")

theorem attach_posting :
    sole.meter.attach none besides posting = (besidesAttached, .ok meteredPosting) := by
  let exporter := MethodTable.single .get (sole.meter.exporter none)
  have added : ∃ r, posting.add "/metrics" exporter = .ok r ∧
      r.wrap sole.meter.layer = meteredPosting := by
    have begins : "/metrics".startsWith "/" = true := String.startsWith_string_iff.mpr (by decide)
    refine ⟨_, ?_, rfl⟩
    rw [Router.add, begins]
    rfl
  obtain ⟨r, added, wrapped⟩ := added
  exact Prod.ext rfl (RequestMeter.attach_eq_ok_iff.mpr ⟨by decide, r, added, wrapped.symm⟩)

theorem leavesAlone_posting : ∀ s ∈ posting.services,
    s.LeavesAlone besidesAttached.recorder sole.meter.collectors.registry := by
  have elsewhere : besidesAttached.recorder ≠ some sole.meter.collectors.registry := by decide
  have handler : ∀ h : Handler,
      (Service.ofHandler h).LeavesAlone besidesAttached.recorder sole.meter.collectors.registry :=
    fun h => ⟨nofun, fun here => absurd here elsewhere, nofun⟩
  have exporter : Service.LeavesAlone { core := .exporter 1 } besidesAttached.recorder
      sole.meter.collectors.registry := by
    refine ⟨?_, nofun, nofun⟩
    rw [Ne, Core.exporter.injEq]
    decide
  intro s member
  simp only [Router.services, posting, postsRoute, postingTable, MethodTable.services,
    MethodTable.single, List.flatMap_cons, List.flatMap_nil, List.map_cons, List.map_nil,
    List.cons_append, List.nil_append, List.append_nil, List.mem_cons, List.not_mem_nil,
    or_false] at member
  rcases member with rfl | rfl | rfl | rfl | rfl
  · exact handler _
  · exact handler _
  · exact handler _
  · exact handler _
  · exact exporter

/-- Something is posted, and then the count is asked for. -/
def posted : List Action :=
  [.arrive 0 { method := "POST", target := { path := "/metrics" } }, .answer 0 1,
    .arrive 1 { method := "GET", target := { path := "/posts" } }, .answer 1 1, .poll 1]

/-- The bytes that each exchange has delivered so far. -/
def delivered (xs : List Exchange) : List Nat := xs.map fun x =>
  match x.stage with
  | .opened answer _ _ => answer.delivered
  | .waiting | .crashed | .closed _ => 0

/-- A handler of the application at the path of the exporter can change what others see, even if it
leaves the registry of the meter alone. -/
theorem own_handler_leaves_trace : ¬ ∀ (m : RequestMeter) (accounts : Option Auth.Accounts)
    (t start : Telemetry) (bare app : Application) (actions : List Action),
    (∀ past, (bare past).Built) →
    (∀ past, m.attach accounts t (bare past) = (start, .ok (app past))) →
    m.collectors.registry < start.registries.length →
    (∀ past, ∀ s ∈ (bare past).services, s.LeavesAlone start.recorder m.collectors.registry) →
    (∀ past, OwnPathOnly m (app past) actions) →
    (Session.after app m.exporterPath start (without m.exporterPath actions)).world.exchanges =
      (Session.after app m.exporterPath start actions).world.exchanges.filter
        (·.request.path ≠ m.exporterPath) := by
  intro always
  have same := congrArg delivered (always sole.meter none besides besidesAttached
    (fun _ => posting) (fun _ => meteredPosting) posted (fun _ => built_posting)
    (fun _ => attach_posting) (by decide) (fun _ => leavesAlone_posting)
    fun _ => ownPathOnly_sole _ _)
  revert same
  decide +kernel

end TrafficMeter.Routing
