import TrafficMeter.Proofs.Routing.Effects
import TrafficMeter.Proofs.Routing.Gate
import TrafficMeter.Proofs.Routing.Mounting

/-!
# What a protected exporter gives away

Behind a gate the exporter shows its registry to those who have the credentials of an account. All
others get the same answers whatever the registry holds.

Main statement: `isolated_attach`, that nothing of the registry comes through without credentials.
-/

namespace TrafficMeter.Routing

open TrafficMeter.Auth (Accounts)
open TrafficMeter.Http (Request)
open TrafficMeter.Traffic (Telemetry Collectors Response)

/-! ## What an answer depends on -/

variable {request : Request} {captures : List (String × String)} {elapsed : Float}

/-- An answer shows no registry but the one that its core shows. -/
theorem respondThrough_congr {core : Core} {layers : List Layer} {t u : Telemetry}
    (same : ∀ place, core = .exporter place → t.registry place = u.registry place) :
    (respondThrough core request captures elapsed layers t).2 =
      (respondThrough core request captures elapsed layers u).2 := by
  induction layers generalizing t u with
  | nil =>
      cases core with
      | handler h => rfl
      | exporter place => simp [respondThrough, Core.respond, same place rfl]
  | cons layer inner ih =>
      cases layer with
      | gate accounts =>
          rw [respondThrough, respondThrough]
          split
          · exact ih same
          · rfl
      | meter m =>
          rw [respondThrough, respondThrough]
          split
          · exact ih same
          · split
            · simp only [ih same]
            · rfl

/-- A response is completed without a look at the process. -/
theorem complete_congr (t u : Telemetry) (s : Selection) (response : Response) :
    (Router.complete t s response).2 = (Router.complete u s response).2 := by
  rw [Router.complete, Router.complete]
  cases s.stripsBody <;> rfl

theorem Router.respond_congr {r : Router} {t u : Telemetry}
    (same : ∀ captures, ((r.select request).1.service.respond t request captures elapsed).2 =
      ((r.select request).1.service.respond u request captures elapsed).2) :
    (r.respond t request elapsed).2 = (r.respond u request elapsed).2 := by
  rw [Router.respond, Router.respond]
  generalize r.select request = chosen at same
  obtain ⟨⟨service, strips, allow⟩, captures⟩ := chosen
  have answers := same captures
  simp only at answers ⊢
  generalize service.respond t request captures elapsed = first at *
  generalize service.respond u request captures elapsed = second at *
  obtain ⟨t, outcome⟩ := first
  obtain ⟨u, again⟩ := second
  cases (show outcome = again from answers)
  cases outcome with
  | error message => rfl
  | ok response => exact congrArg Except.ok (complete_congr t u _ response)

/-- What is answered is the response of the chosen service, completed. -/
theorem Router.respond_of_select {r : Router} {chosen : Selection}
    (selected : (r.select request).1 = chosen) {t : Telemetry} {response : Response}
    (answered : (chosen.service.respond t request (r.select request).2 elapsed).2 =
      .ok response) :
    (r.respond t request elapsed).2 = .ok (Router.complete t chosen response).2 := by
  obtain ⟨u, whole⟩ : ∃ u, chosen.service.respond t request (r.select request).2 elapsed =
      (u, .ok response) := ⟨_, Prod.ext rfl answered⟩
  rw [complete_congr t u, Router.respond]
  generalize r.select request = selection at selected whole
  obtain ⟨own, captures⟩ := selection
  cases (show own = chosen from selected)
  simp only [whole]

/-- For requests to its own exporter a meter is as if it were not there. -/
theorem RequestMeter.respond_wrap_own {m : RequestMeter} (own : request.path = m.exporterPath)
    (s : Service) (t : Telemetry) :
    (s.wrap m.layer).respond t request captures elapsed = s.respond t request captures elapsed :=
  respondThrough_meter_own s.core captures elapsed s.layers t own

/-! ## Who reaches a core -/

/-- It makes a difference for a request what the core of a service does. -/
def Service.Reached (s : Service) (request : Request) : Prop :=
  ∃ core captures elapsed t, respondThrough core request captures elapsed s.layers t ≠
    respondThrough s.core request captures elapsed s.layers t

/-- Behind layers that do not let a request through it makes no difference what a core does. -/
theorem respondThrough_closed {layers : List Layer} (closed : opens request layers = false)
    (core other : Core) (t : Telemetry) :
    respondThrough core request captures elapsed layers t =
      respondThrough other request captures elapsed layers t := by
  induction layers generalizing t with
  | nil => cases closed
  | cons layer inner ih =>
      cases layer with
      | gate accounts =>
          rw [opens_cons_gate] at closed
          cases known : accounts.authorize request.headers with
          | none =>
              rw [respondThrough_gate_refused _ _ _ _ _ known,
                respondThrough_gate_refused _ _ _ _ _ known]
          | some user =>
              rw [known, Option.isSome_some, Bool.true_and] at closed
              rw [respondThrough, respondThrough, known]
              exact ih closed _
      | meter m =>
          rw [opens_cons_meter] at closed
          by_cases own : request.path = m.exporterPath
          · rw [decide_eq_true own, Bool.true_or, Bool.true_and] at closed
            rw [respondThrough_meter_own _ _ _ _ _ own, respondThrough_meter_own _ _ _ _ _ own]
            exact ih closed t
          · cases sized : request.approximateSize with
            | error message =>
                rw [respondThrough_meter_unsized _ _ _ _ _ own sized,
                  respondThrough_meter_unsized _ _ _ _ _ own sized]
            | ok size =>
                rw [decide_eq_false own, sized] at closed
                rw [respondThrough_meter_sized _ _ _ _ _ own sized,
                  respondThrough_meter_sized _ _ _ _ _ own sized, ih closed t]

/-- A crash behind layers that let a request through is a crash in front of them. -/
theorem respondThrough_crash {layers : List Layer} (opened : opens request layers = true)
    (message : String) (t : Telemetry) :
    (respondThrough (.handler (Handler.crash message)) request captures elapsed layers t).2 =
      .error message := by
  induction layers generalizing t with
  | nil => rfl
  | cons layer inner ih =>
      cases layer with
      | gate accounts =>
          rw [opens_cons_gate, Bool.and_eq_true, Option.isSome_iff_exists] at opened
          obtain ⟨⟨user, known⟩, further⟩ := opened
          rw [respondThrough, known]
          exact ih further _
      | meter m =>
          rw [opens_cons_meter, Bool.and_eq_true] at opened
          obtain ⟨passes, further⟩ := opened
          by_cases own : request.path = m.exporterPath
          · rw [respondThrough_meter_own _ _ _ _ _ own]
            exact ih further t
          · rw [decide_eq_false own, Bool.false_or] at passes
            cases sized : request.approximateSize with
            | error message => simp [sized, Except.isOk, Except.toBool] at passes
            | ok size =>
                rw [respondThrough_meter_sized _ _ _ _ _ own sized, ih further t]
                rfl

/-- A core is reached through layers that let the request through. -/
theorem Service.reached_iff {s : Service} :
    s.Reached request ↔ opens request s.layers = true := by
  constructor
  · rintro ⟨core, captures, elapsed, t, differ⟩
    refine Bool.of_not_eq_false fun closed => differ ?_
    exact respondThrough_closed closed core s.core t
  · intro opened
    by_contra same
    simp only [Service.Reached, not_exists, not_not] at same
    have first := (same (.handler (Handler.crash "first")) [] 0 {}).trans
      (same (.handler (Handler.crash "second")) [] 0 {}).symm
    have messages := congrArg Prod.snd first
    rw [respondThrough_crash opened, respondThrough_crash opened] at messages
    exact absurd (Except.error.inj messages) (by decide)

/-! ## The exporter behind a gate -/

/-- What is expected of a router with an exporter behind the gate of some pairs. -/
structure Isolated (pairs : List (String × String)) (m : RequestMeter) (plain metered : Router) :
    Prop where
  /-- Without credentials the answer is the same whatever the registry holds. -/
  blind : ∀ request, (∀ user, ¬ Admits pairs request.headers user) → ∀ elapsed (t u : Telemetry),
    (∀ place, place ≠ m.collectors.registry → t.registry place = u.registry place) →
      (metered.respond t request elapsed).2 = (metered.respond u request elapsed).2
  /-- The exporter is chosen for GET and HEAD at its path, and acts for those with credentials.
  Where its path has marks, a request with another path may be sent to it; such a request is
  measured, so it has to have a size as well. -/
  chosen : ∀ request,
    (metered.select request).1.service.core = .exporter m.collectors.registry →
      (request.method = "GET" ∨ request.method = "HEAD") ∧
        metered.Dispatches m.exporterPath request.path ∧
        ((metered.select request).1.service.Reached request ↔
          (∃ user, Admits pairs request.headers user) ∧
            (request.path = m.exporterPath ∨ request.Fits))
  /-- Without credentials GET for the path of the exporter is answered with the challenge, and so is
  HEAD if the path had no service for it. -/
  challenged : ∀ request elapsed t, request.path = m.exporterPath →
    (∀ user, ¬ Admits pairs request.headers user) →
    (request.method = "GET" ∨ request.method = "HEAD" ∧
      ∀ old ∈ plain.routes, old.path = m.exporterPath → old.table.find? .head = none) →
    (metered.respond t request elapsed).2 =
      .ok { status := 401
            headers := [("www-authenticate", challenge), ("content-length", "0")] }

variable {pairs : List (String × String)} {accounts : Accounts} {m : RequestMeter}
  {t : Telemetry} {plain metered : Router}

/-- Who gets through to the exporter of a meter. -/
theorem RequestMeter.opens_exporter (m : RequestMeter) (accounts : Accounts) (request : Request) :
    opens request ((m.exporter (some accounts)).wrap m.layer).layers =
      ((request.path = m.exporterPath || request.approximateSize.isOk) &&
        (accounts.authorize request.headers).isSome) := by
  refine (opens_cons_meter request _ _).trans ?_
  exact congrArg _ ((opens_cons_gate request accounts []).trans (Bool.and_true _))

/-- Only the exporter that was attached shows its registry. -/
theorem exporter_of_core (done : (m.attach (some accounts) t plain).2 = .ok metered)
    (unread : ∀ s ∈ plain.services, s.core ≠ .exporter m.collectors.registry) {request : Request}
    (shows : (metered.select request).1.service.core = .exporter m.collectors.registry) :
    (metered.select request).1.service = (m.exporter (some accounts)).wrap m.layer ∧
      (request.method = "GET" ∨ request.method = "HEAD") ∧
      metered.Dispatches m.exporterPath request.path := by
  obtain ⟨inner, chosen, origin⟩ := RequestMeter.select_attach done request
  rw [chosen] at shows ⊢
  have core : inner.core = .exporter m.collectors.registry := shows
  rcases origin with ⟨old, -⟩ | ⟨sent, ⟨rfl, method⟩ | rfl | ⟨route, there, -, old⟩⟩
  · exact absurd core (unread inner old)
  · exact ⟨rfl, method, sent⟩
  · cases core
  · refine absurd core (unread inner ?_)
    exact List.mem_cons_of_mem _ (List.mem_flatMap.mpr ⟨route, there, old⟩)

/-- A request that the gate does not let through is answered with the challenge. -/
theorem respond_closed (built : plain.Built)
    (done : (m.attach (some accounts) t plain).2 = .ok metered) {request : Request}
    (own : request.path = m.exporterPath)
    (method : request.method = "GET" ∨ request.method = "HEAD" ∧
      ∀ old ∈ plain.routes, old.path = m.exporterPath → old.table.find? .head = none)
    (closed : accounts.authorize request.headers = none) (elapsed : Float) (u : Telemetry) :
    (metered.respond u request elapsed).2 =
      .ok { status := 401
            headers := [("www-authenticate", challenge), ("content-length", "0")] } := by
  have chosen := RequestMeter.select_exporter built done own method
  have answered : (((m.exporter (some accounts)).wrap m.layer).respond u request
      (metered.select request).2 elapsed).2 = .ok unauthorized := by
    rw [RequestMeter.respond_wrap_own own]
    exact congrArg Prod.snd (respondThrough_gate_refused _ _ _ _ _ closed)
  rw [Router.respond_of_select chosen answered]
  cases request.method == "HEAD" <;> rfl

/-- Nothing of the registry comes through to those without the credentials of an account. -/
theorem isolated_attach (made : Accounts.ofList pairs = .ok accounts) (built : plain.Built)
    (done : (m.attach (some accounts) t plain).2 = .ok metered)
    (unread : ∀ s ∈ plain.services, s.core ≠ .exporter m.collectors.registry) :
    Isolated pairs m plain metered where
  blind := by
    intro request stranger elapsed t u same
    have closed := (authorize_eq_none_iff made).mpr stranger
    apply Router.respond_congr
    intro captures
    by_cases shows : (metered.select request).1.service.core = .exporter m.collectors.registry
    · have shut : opens request (metered.select request).1.service.layers = false := by
        rw [(exporter_of_core done unread shows).1, m.opens_exporter, closed]
        exact Bool.and_false _
      -- a core that shows nothing would do as well
      let other : Core := .handler (Handler.crash "")
      refine (congrArg Prod.snd (respondThrough_closed shut _ other t)).trans ?_
      refine Eq.trans ?_ (congrArg Prod.snd (respondThrough_closed shut _ other u)).symm
      exact respondThrough_congr fun place shown => absurd shown (by simp [other])
    · refine respondThrough_congr fun place shown => same place ?_
      rintro rfl
      exact shows shown
  chosen := by
    intro request shows
    obtain ⟨chosen, method, sent⟩ := exporter_of_core done unread shows
    refine ⟨method, sent, ?_⟩
    rw [chosen, Service.reached_iff, m.opens_exporter, Bool.and_eq_true, Option.isSome_iff_exists,
      and_comm, Bool.or_eq_true, decide_eq_true_iff, Request.isOk_approximateSize]
    simp only [authorize_eq_some_iff made]
  challenged := by
    intro request elapsed t own stranger method
    exact respond_closed built done own method ((authorize_eq_none_iff made).mpr stranger) elapsed t

/-! ## A path that answers HEAD itself -/

/-- A meter, a gate, and a router with a service for HEAD at the path of the exporter. -/
structure Headed where
  meter : RequestMeter
  accounts : Accounts
  plain : Router
  metered : Router
  made : Accounts.ofList [("u", "p")] = .ok accounts
  built : plain.Built
  attached : (meter.attach (some accounts) {} plain).2 = .ok metered
  unread : ∀ s ∈ plain.services, s.core ≠ .exporter meter.collectors.registry

/-- Such a router, whose own service answers with nothing. -/
def headed : Headed :=
  let meter : RequestMeter := ⟨Collectors.ofSubsystem 0 "http", "/metrics"⟩
  let accounts : Accounts := ⟨[("u", "p")]⟩
  let own := MethodTable.single .head (Service.ofHandler (Handler.constant {}))
  let exporter := MethodTable.single .get (meter.exporter (some accounts))
  let pattern := Piece.plain (Text.bytes "/metrics")
  let plain : Router := { routes := [⟨"/metrics", pattern, own⟩] }
  let joined : MethodTable := { entries := own.entries ++ exporter.entries }
  have first : Router.add {} "/metrics" own = .ok plain :=
    Router.Built.empty.faithful.add_plain (by decide) (by decide) (by simp) own
  have second : plain.add "/metrics" exporter =
      .ok { routes := [⟨"/metrics", pattern, joined⟩] } := by
    have begins : "/metrics".startsWith "/" = true :=
      String.startsWith_string_iff.mpr (by decide)
    rw [Router.add, begins]
    rfl
  { meter
    accounts
    plain
    metered := Router.wrap { routes := [⟨"/metrics", pattern, joined⟩] } meter.layer
    made := rfl
    built := .add .empty first
    attached := RequestMeter.attach_eq_ok_iff.mpr ⟨by decide, _, second, rfl⟩
    unread := by simp [plain, own, Router.services, MethodTable.services, MethodTable.single,
      Service.ofHandler] }

theorem isolated_headed : Isolated [("u", "p")] headed.meter headed.plain headed.metered :=
  isolated_attach headed.made headed.built headed.attached headed.unread

/-- The service for HEAD that the path had before answers without the gate. -/
theorem head_unchallenged : ¬ ∀ (pairs : List (String × String)) (accounts : Accounts)
    (m : RequestMeter) (t u : Telemetry) (plain metered : Router) (request : Request)
    (elapsed : Float), Accounts.ofList pairs = .ok accounts → plain.Built →
    (m.attach (some accounts) t plain).2 = .ok metered →
    (∀ s ∈ plain.services, s.core ≠ .exporter m.collectors.registry) →
    request.path = m.exporterPath → (∀ user, ¬ Admits pairs request.headers user) →
    (request.method = "GET" ∨ request.method = "HEAD") →
    (metered.respond u request elapsed).2 =
      .ok { status := 401
            headers := [("www-authenticate", challenge), ("content-length", "0")] } := by
  intro always
  let request : Request := { method := "HEAD", target := { path := "/metrics" } }
  have stranger : ∀ user, ¬ Admits [("u", "p")] request.headers user :=
    (authorize_eq_none_iff headed.made).mp rfl
  have answer := always _ _ _ _ {} _ _ request 0 headed.made headed.built headed.attached
    headed.unread rfl stranger (.inr rfl)
  have status := congrArg (fun outcome => outcome.toOption.map Response.status) answer
  revert status
  decide +kernel

end TrafficMeter.Routing
