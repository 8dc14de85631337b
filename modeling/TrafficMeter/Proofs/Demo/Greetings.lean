import TrafficMeter.Proofs.Demo.Dispatch
import TrafficMeter.Proofs.Metric.Cells
import TrafficMeter.Proofs.Routing.Metering
import TrafficMeter.Proofs.Routing.Transparency
import TrafficMeter.Proofs.Traffic.Subsystems

/-!
# The greetings of the demo application

The demo application counts its greetings twice: its handler counts each as it greets, through the
recorder of the process, and the meter around it counts each as its response ends or is dropped.
Once no response is left open, both have counted the same.

Main statement: `launch_greetings`, that they agree after any run, whatever the path of the
exporter.
-/

namespace TrafficMeter.Routing

/-- The status of the response, once there is one. -/
def Exchange.status? (x : Exchange) : Option Nat :=
  match x.stage with
  | .opened answer _ _ | .closed answer => some answer.status
  | .waiting | .crashed => none

/-- The response has neither ended nor been dropped. -/
def Exchange.isOpen (x : Exchange) : Bool :=
  match x.stage with
  | .opened _ _ ended => !ended
  | .waiting | .crashed | .closed _ => false

theorem Exchange.status?_poll (t : Traffic.Telemetry) (x : Exchange) :
    (x.poll t).2.status? = x.status? := by
  obtain ⟨id, request, stage⟩ := x
  cases stage <;> rfl

theorem Exchange.status?_drop (t : Traffic.Telemetry) (x : Exchange) :
    (x.drop t).2.status? = x.status? := by
  obtain ⟨id, request, stage⟩ := x
  cases stage <;> rfl

/-- The status is that of what the service says. -/
theorem Exchange.status?_answer (r : Router) (elapsed : Float) (t : Traffic.Telemetry) (id : Nat)
    (request : Http.Request) :
    (Exchange.answer r elapsed t ⟨id, request, .waiting⟩).2.status? =
      ((r.select request).1.service.respond t request (r.select request).2 elapsed).2.toOption.map
        Traffic.Response.status := by
  obtain ⟨u, outcome, answered⟩ : ∃ u outcome,
      (r.select request).1.service.respond t request (r.select request).2 elapsed = (u, outcome) :=
    ⟨_, _, rfl⟩
  simp only [Exchange.answer, Router.respond, answered]
  cases outcome with
  | error message => rfl
  | ok response =>
      simp only [Router.complete]
      split <;> rfl

/-- If all that is owed is owed to one meter, so is what is handed out and what is left. -/
theorem Hands.own {c d : Traffic.Collectors} {path : String} {owed handed : List Traffic.Pending}
    {x after : Exchange} (hands : Hands c path owed x after handed)
    (own : ∀ p ∈ owed, p.collectors = d) :
    ∀ q, q ∈ handed ∨ q ∈ after.pending → q.collectors = d := by
  intro q member
  obtain ⟨p, inside, stem⟩ := hands.stems q member
  exact stem.trans (own p inside)

end TrafficMeter.Routing

namespace TrafficMeter.Demo

open TrafficMeter.Http (Request)
open TrafficMeter.Metric (Registry Table Key Write Cell)
open TrafficMeter.Routing
open TrafficMeter.Traffic

/-! ## The application -/

/-- A process whose recorder will be the first registry. -/
def recording : Telemetry := { recorder := some 0, journal := [.recorderInstalled] }

/-- What has been done when the demo application has started. -/
theorem launch_eq_ok {registry : Registry} {subsystem path : String}
    {accounts : Option Auth.Accounts} {app : App}
    (launched : launch registry subsystem path accounts = .ok app) :
    ∃ made m plain,
      RequestMeter.new (recording.addRegistry registry).1 (recording.addRegistry registry).2
        subsystem = (made, .ok m) ∧
      Router.addAll {} routes = .ok plain ∧ app.meter = { m with exporterPath := path } ∧
      app.meter.attach accounts made plain = (app.telemetry, .ok app.router) := by
  obtain ⟨-, -, launched⟩ := Attempt.bind_eq_ok_iff.mp launched
  obtain ⟨m, made, launched⟩ := Attempt.bind_eq_ok_iff.mp launched
  obtain ⟨plain, all, launched⟩ := Attempt.bind_eq_ok_iff.mp launched
  obtain ⟨router, attached, launched⟩ := Attempt.bind_eq_ok_iff.mp launched
  cases launched
  have made := Attempt.mapError_eq_ok_iff.mp made
  have all := Attempt.mapError_eq_ok_iff.mp all
  exact ⟨_, m, plain, Prod.ext rfl made, all, rfl, Prod.ext rfl attached⟩

/-! ## The counter of the handler -/

/-- A registry that has counted so many greetings. -/
def Counts (n : Nat) (r : Registry) : Prop :=
  Table.find? r.counters greetings = if n = 0 then none else some (UInt64.ofNat n)

theorem Counts.getD {n : Nat} {r : Registry} (h : Counts n r) :
    (Table.find? r.counters greetings).getD 0 = UInt64.ofNat n := by
  rw [h]
  split
  · next none => rw [none]; rfl
  · rfl

theorem Counts.greet {n : Nat} {r : Registry} (h : Counts n r) :
    Counts (n + 1) (r.apply (.add greetings 1)) := by
  rw [Counts, Registry.apply, Table.find?_alter, if_pos rfl, h.getD, if_neg n.succ_ne_zero,
    UInt64.ofNat_add]
  rfl

/-- The families of a subsystem do not count greetings. -/
theorem ne_greetings (id : RegistryId) (subsystem : String) :
    ∀ name ∈ (Collectors.ofSubsystem id subsystem).names, name ≠ greetings.name := by
  have apart : ∀ name ∈ Metric.Name.sampleStems, name ≠ greetings.name ∧
      ¬ '_' :: name.toList <:+ greetings.name.toList := by decide
  have qualified : ∀ name ∈ Metric.Name.sampleStems,
      Metric.Name.qualify subsystem name ≠ greetings.name := by
    intro name stem same
    obtain ⟨other, ends⟩ := apart name stem
    by_cases empty : subsystem.toList = []
    · rw [Metric.Name.qualify, if_pos (String.isEmpty_iff.mpr (String.toList_eq_nil_iff.mp empty))]
        at same
      exact other same
    · rw [← same, Metric.Name.toList_qualify empty] at ends
      exact ends (List.suffix_append ..)
  intro name member
  simp only [Collectors.names, Collectors.ofSubsystem, List.mem_cons, List.not_mem_nil,
    or_false] at member
  rcases member with rfl | rfl | rfl | rfl <;> exact qualified _ (by decide)

/-- A process whose registry at a place has counted so many greetings. -/
def Shown (place : RegistryId) (n : Nat) (t : Telemetry) : Prop :=
  ∃ r, t.registries[place]? = some r ∧ Counts n r

/-- Requests of the families are settled without a greeting. -/
theorem Shown.settle {c : Collectors} (apart : ∀ name ∈ c.names, name ≠ greetings.name)
    {place : RegistryId} {n : Nat} {t : Telemetry} (h : Shown place n t) {done : List Pending}
    (own : ∀ q ∈ done, q.collectors = c) : Shown place n (t.settle done) := by
  obtain ⟨r, found, counts⟩ := h
  refine ⟨r.applyAll (writesTo place done), ?_, ?_⟩
  · rw [Telemetry.registries_settle, found]
    rfl
  · have others : ∀ w ∈ writesTo place done, w.cell ≠ .counter greetings := by
      intro w member same
      obtain ⟨q, inside, written⟩ := List.mem_flatMap.mp member
      rw [own q (List.mem_filter.mp inside).1] at written
      simp only [Collectors.writes, List.mem_cons, List.not_mem_nil, or_false] at written
      rcases written with rfl | rfl | rfl | rfl
      · cases same
      · cases same
      · cases same
      · exact apart c.requests List.mem_cons_self (congrArg Key.name (Cell.counter.inj same))
    rw [Counts, Registry.counter_applyAll others]
    exact counts

/-! ## Who is greeted -/

/-- A request that is for the greeting, if the exporter is at a path. -/
def Greets (path : String) (request : Request) : Prop :=
  (request.method = "GET" ∨ request.method = "HEAD") ∧ request.path ≠ path ∧
    (segment? request.path).isSome

instance (path : String) (request : Request) : Decidable (Greets path request) :=
  inferInstanceAs (Decidable (_ ∧ _ ∧ _))

/-- The name in the path of a request can be read. -/
def Readable (request : Request) : Prop :=
  ((segment? request.path).bind Text.Percent.decode?).isSome

/-- A request that was answered with a greeting. -/
def Greeted (path : String) (request : Request) (status : Option Nat) : Prop :=
  Greets path request ∧ status = some 200

instance (path : String) (request : Request) (status : Option Nat) :
    Decidable (Greeted path request status) :=
  inferInstanceAs (Decidable (_ ∧ _))

/-- The status of what a service says. -/
def said (s : Service) (t : Telemetry) (request : Request) (captures : List (String × String))
    (elapsed : Float) : Option Nat :=
  (s.respond t request captures elapsed).2.toOption.map Response.status

theorem said_ofHandler (h : Handler) (t : Telemetry) (request : Request)
    (captures : List (String × String)) (elapsed : Float) :
    said (Service.ofHandler h) t request captures elapsed =
      (h request captures).outcome.toOption.map Reply.status := by
  change ((h request captures).outcome.map _).toOption.map Response.status = _
  cases (h request captures).outcome <;> rfl

/-- The greeting counts whom it greets, which needs a name that can be read. -/
theorem hello_cases (request : Request) (segment : String) :
    ((Text.Percent.decode? segment).isSome ∧
        (hello request [("name", segment)]).outcome.toOption.map Reply.status = some 200 ∧
        (hello request [("name", segment)]).writes = [.add greetings 1]) ∨
      ((hello request [("name", segment)]).outcome.toOption.map Reply.status = some 400 ∧
        (hello request [("name", segment)]).writes = []) := by
  have name : ([("name", segment)].lookup "name").bind Text.Percent.decode? =
      Text.Percent.decode? segment := rfl
  simp only [hello, name]
  cases Text.Percent.decode? segment with
  | none => exact .inr ⟨rfl, rfl⟩
  | some text => exact .inl ⟨rfl, rfl, rfl⟩

variable {path : String} {request : Request} {captures : List (String × String)} {s : Service}

/-- A service that writes nothing leaves the count of greetings as it is. -/
theorem Counts.silent {n : Nat} {r : Registry} (h : Counts n r)
    (silent : ∀ own, s.core = .handler own → (own request captures).writes = [])
    (recorder : Option RegistryId) (place : RegistryId) :
    Counts n (s.effect recorder request captures place r) := by
  obtain ⟨layers, core⟩ := s
  rw [Service.effect]
  split
  · cases core with
    | handler own =>
        rw [Core.effect, silent own rfl]
        split <;> exact h
    | exporter id =>
        rw [Core.effect]
        split <;> exact h
  · exact h

/-- A request is greeted, and a greeting counted, or neither. -/
theorem Sent.greeted_or (sent : Sent path request captures s) (t : Telemetry) (elapsed : Float) :
    (Greeted path request (said s t request captures elapsed) ∧ Readable request ∧
        ∃ own, s = Service.ofHandler own ∧ (own request captures).writes = [.add greetings 1]) ∨
      (¬ Greeted path request (said s t request captures elapsed) ∧
        ∀ own, s.core = .handler own → (own request captures).writes = []) := by
  cases sent with
  | @greeted segment found captured other method =>
      have greets : Greets path request := ⟨method, other, by rw [found]; rfl⟩
      rw [said_ofHandler, captured]
      rcases hello_cases request segment with ⟨readable, fine, written⟩ | ⟨refused, silent⟩
      · refine .inl ⟨⟨greets, fine⟩, ?_, hello, rfl, written⟩
        rw [Readable, found]
        exact readable
      · refine .inr ⟨fun greeted => ?_, fun own same => ?_⟩
        · rw [refused] at greeted
          cases greeted.2
        · cases same
          exact silent
  | @refused status failed =>
      refine .inr ⟨fun greeted => ?_, fun own same => ?_⟩
      · rw [said_ofHandler] at greeted
        exact failed (Option.some.inj greeted.2)
      · cases same
        rfl
  | elsewhere mute other =>
      refine .inr ⟨fun greeted => ?_, fun own same => mute.writes own same request captures⟩
      obtain ⟨⟨-, away, segment⟩, -⟩ := greeted
      rcases other with here | none
      · exact away here
      · rw [none] at segment
        cases segment

/-- Wherever a request goes, a greeting is counted just when it is greeted. -/
theorem Sent.effect (sent : Sent path request captures s) {t : Telemetry} {place : RegistryId}
    (recorder : t.recorder = some place) (elapsed : Float) {n : Nat} {r : Registry}
    (h : Counts n r) :
    Counts (n + if Greeted path request (said s t request captures elapsed) then 1 else 0)
      (s.effect t.recorder request captures place r) := by
  rcases sent.greeted_or t elapsed with ⟨greeted, -, own, rfl, written⟩ | ⟨not, silent⟩
  · rw [if_pos greeted, recorder]
    change Counts _
      (if some place = some place then r.applyAll (own request captures).writes else r)
    rw [if_pos rfl, written]
    exact h.greet
  · rw [if_neg not]
    exact h.silent silent t.recorder place

/-- An answer counts a greeting just when it is one. -/
theorem Sent.shown (sent : Sent path request captures s) {t : Telemetry} {place : RegistryId}
    (recorder : t.recorder = some place) (elapsed : Float) {n : Nat} (h : Shown place n t) :
    Shown place (n + if Greeted path request (said s t request captures elapsed) then 1 else 0)
      (s.respond t request captures elapsed).1 := by
  obtain ⟨r, found, counts⟩ := h
  refine ⟨s.effect t.recorder request captures place r, ?_, sent.effect recorder elapsed counts⟩
  rw [Service.respond, registries_respondThrough, found]
  rfl

/-- The same holds behind a meter. A request that is too large for it is not greeted at all. -/
theorem Sent.metered {m : RequestMeter} (sent : Sent m.exporterPath request captures s)
    {t : Telemetry} {place : RegistryId} (recorder : t.recorder = some place) (elapsed : Float) :
    (Greeted m.exporterPath request (said (s.wrap m.layer) t request captures elapsed) →
        Readable request) ∧
      ∀ n, Shown place n t → Shown place
        (n + if Greeted m.exporterPath request (said (s.wrap m.layer) t request captures elapsed)
          then 1 else 0) ((s.wrap m.layer).respond t request captures elapsed).1 := by
  by_cases passes : request.path = m.exporterPath ∨ request.Fits
  · obtain ⟨same, alike⟩ := @respond_wrap_matches request captures elapsed elapsed
      ⟨m.collectors, m.exporterPath⟩ s t passes
    have status : said (s.wrap m.layer) t request captures elapsed =
      said s t request captures elapsed := alike.status
    rw [status]
    refine ⟨fun greeted => ?_, fun n shown => ?_⟩
    · rcases sent.greeted_or t elapsed with ⟨-, readable, -⟩ | ⟨not, -⟩
      · exact readable
      · exact absurd greeted not
    · exact same ▸ sent.shown recorder elapsed shown
  · obtain ⟨other, long⟩ := not_or.mp passes
    have crash : (s.wrap m.layer).respond t request captures elapsed =
        (t, .error Request.overflow) :=
      respondThrough_meter_unsized (m := ⟨m.collectors, m.exporterPath⟩) s.core captures elapsed
        s.layers t other (Request.approximateSize_of_not_fits long)
    have silent : said (s.wrap m.layer) t request captures elapsed = none := by
      rw [said, crash]
      rfl
    have not : ¬ Greeted m.exporterPath request none := nofun
    rw [silent, crash, if_neg not]
    exact ⟨fun greeted => absurd greeted not, fun n shown => shown⟩

/-- No service of the demo application is measured by itself. -/
theorem Sent.layers (sent : Sent path request captures s) : ∀ other, .meter other ∉ s.layers := by
  cases sent with
  | greeted found captured other method => simp [Service.ofHandler]
  | refused failed => simp [Service.ofHandler]
  | elsewhere mute other => exact mute.layers

/-! ## Exchanges -/

/-- So many exchanges were answered with a greeting. -/
def greetedIn (path : String) (xs : List Exchange) : Nat :=
  xs.countP fun x => Greeted path x.request x.status?

theorem greetedIn_singleton (path : String) (x : Exchange) :
    greetedIn path [x] = if Greeted path x.request x.status? then 1 else 0 := by
  simp only [greetedIn, List.countP_singleton, decide_eq_true_eq]

theorem greetedIn_append (path : String) (xs ys : List Exchange) :
    greetedIn path (xs ++ ys) = greetedIn path xs + greetedIn path ys :=
  List.countP_append

theorem greetedIn_change (path : String) (before : List Exchange) (x : Exchange)
    (after : List Exchange) : greetedIn path (before ++ x :: after) =
      greetedIn path before + greetedIn path after + greetedIn path [x] := by
  have split := greetedIn_append path [x] after
  rw [List.singleton_append] at split
  rw [greetedIn_append, split, Nat.add_comm (greetedIn path [x]), Nat.add_assoc]

/-- What changing an exchange does to the count of greetings. -/
structure Turns (c : Collectors) (path : String) (t : Telemetry) (x : Exchange)
    (next : Telemetry × Exchange) : Prop where
  recorder : next.1.recorder = t.recorder
  stems : ∀ q ∈ next.2.pending, q.collectors = c
  readable : Greeted path next.2.request next.2.status? → Readable next.2.request
  shown : ∀ n, Shown c.registry (n + greetedIn path [x]) t →
    Shown c.registry (n + greetedIn path [next.2]) next.1

variable {c : Collectors} {x : Exchange}

/-- Where requests are settled, and nobody is answered, no greeting is counted. -/
theorem turns_of_hands (apart : ∀ name ∈ c.names, name ≠ greetings.name)
    {f : Telemetry → Exchange → Telemetry × Exchange}
    (hands : ∃ after handed, (∀ t, f t x = (t.settle handed, after)) ∧
      Hands c path x.pending x after handed)
    (stems : ∀ q ∈ x.pending, q.collectors = c)
    (readable : Greeted path x.request x.status? → Readable x.request) (t : Telemetry)
    (same : (f t x).2.status? = x.status?) : Turns c path t x (f t x) := by
  obtain ⟨after, handed, moved, hands⟩ := hands
  have own := hands.own stems
  rw [moved] at same ⊢
  have alike : greetedIn path [after] = greetedIn path [x] := by
    rw [greetedIn_singleton, greetedIn_singleton, hands.request, same]
  refine ⟨t.recorder_settle handed, fun q member => own q (.inr member), ?_, ?_⟩
  · rw [hands.request, same]
    exact readable
  · intro n shown
    rw [alike]
    exact shown.settle apart fun q member => own q (.inl member)

/-- A router that sends every request as the demo application does, behind a meter. -/
def Serves (m : RequestMeter) (r : Router) : Prop :=
  ∀ request, ∃ s : Service, (r.select request).1.service = s.wrap m.layer ∧
    Sent m.exporterPath request (r.select request).2 s

variable {m : RequestMeter} {r : Router}

theorem Serves.owing (serves : Serves m r) : r.Owing m.collectors fun _ => m.exporterPath := by
  intro request t captures elapsed response answered
  obtain ⟨s, chosen, sent⟩ := serves request
  exact respond_owes chosen (fun other inside => absurd inside (sent.layers other)) answered

/-- The handlers write to none of the families. -/
theorem Serves.spares (serves : Serves m r)
    (apart : ∀ name ∈ m.collectors.names, name ≠ greetings.name) (request : Request) :
    r.Spares m.collectors request := by
  obtain ⟨s, chosen, sent⟩ := serves request
  intro own core w written
  rw [chosen] at core
  rcases sent.greeted_or {} 0 with ⟨-, -, other, rfl, greeting⟩ | ⟨-, silent⟩
  · cases core
    rw [greeting, List.mem_singleton] at written
    subst written
    intro name same inside
    exact apart name inside (Option.some.inj same).symm
  · rw [silent own core] at written
    cases written

/-- All that the demo application has to settle was measured by its meter. -/
theorem Serves.stems (serves : Serves m r) {t : Telemetry} {request : Request} {elapsed : Float}
    {q : Pending} (owed : q ∈ owedBy
      ((r.select request).1.service.respond t request (r.select request).2 elapsed).2) :
    q.collectors = m.collectors := by
  obtain ⟨s, chosen, sent⟩ := serves request
  obtain ⟨response, answered, inside⟩ := mem_owedBy owed
  rw [chosen] at answered
  obtain ⟨own, layer, -, same⟩ := mem_close_respondThrough answered q inside
  rcases List.mem_cons.mp layer with outer | deeper
  · cases outer
    exact same
  · exact absurd deeper (sent.layers own)

/-- Answers take their turn in the count of greetings. -/
theorem Serves.answer_turns (serves : Serves m r)
    (apart : ∀ name ∈ m.collectors.names, name ≠ greetings.name) (elapsed : Float) {t : Telemetry}
    (recorder : t.recorder = some m.collectors.registry) (id : Nat) (request : Request) :
    Turns m.collectors m.exporterPath t ⟨id, request, .waiting⟩
      (Exchange.answer r elapsed t ⟨id, request, .waiting⟩) := by
  obtain ⟨after, handed, answered, hands⟩ := answer_hands r elapsed id
    fun response answered => serves.owing request t _ elapsed response answered
  have own := hands.own fun p owed => serves.stems owed
  obtain ⟨s, chosen, sent⟩ := serves request
  obtain ⟨readable, counted⟩ := sent.metered recorder elapsed
  have status := Exchange.status?_answer r elapsed t id request
  rw [answered t _ rfl, chosen] at status
  change after.status? = said (s.wrap m.layer) t request (r.select request).2 elapsed at status
  rw [answered t _ rfl, chosen]
  refine ⟨?_, fun q member => own q (.inr member), ?_, ?_⟩
  · rw [Telemetry.recorder_settle]
    exact recorder_respondThrough
  · rw [hands.request, status]
    exact readable
  · intro n shown
    have waiting : greetedIn m.exporterPath [⟨id, request, .waiting⟩] = 0 := by
      simp [greetedIn, Greeted, Exchange.status?]
    rw [waiting] at shown
    rw [greetedIn_singleton, hands.request, status]
    exact (counted n shown).settle apart fun q member => own q (.inl member)

/-! ## Runs -/

/-- What holds of the demo application as long as it runs. -/
structure Running (m : RequestMeter) (w : World) : Prop where
  account : w.Tallied m.collectors (fun _ => m.exporterPath) {}
  recorder : w.telemetry.recorder = some m.collectors.registry
  stems : ∀ x ∈ w.exchanges, ∀ q ∈ x.pending, q.collectors = m.collectors
  readable : ∀ x ∈ w.exchanges, Greeted m.exporterPath x.request x.status? → Readable x.request
  shown : Shown m.collectors.registry (greetedIn m.exporterPath w.exchanges) w.telemetry

theorem Running.change {w : World} (h : Running m w) {id : Nat}
    {f : Telemetry → Exchange → Telemetry × Exchange}
    (account : (w.change id f).Tallied m.collectors (fun _ => m.exporterPath) {})
    (turns : ∀ x ∈ w.exchanges,
      Turns m.collectors m.exporterPath w.telemetry x (f w.telemetry x)) :
    Running m (w.change id f) := by
  obtain ⟨t, exchanges⟩ := w
  rw [World.change] at account ⊢
  rcases changeFirst_cases id f t exchanges with same | ⟨before, x, after, rfl, -, changed⟩
  · rw [same]
    exact h
  · have turn := turns x (by simp)
    have shown := h.shown
    rw [greetedIn_change] at shown
    rw [changed] at account ⊢
    refine ⟨account, turn.recorder.trans h.recorder, ?_, ?_, ?_⟩
    · exact forall_mem_change h.stems turn.stems
    · exact forall_mem_change h.readable turn.readable
    · rw [greetedIn_change]
      exact turn.shown _ shown

/-- Whatever happens to an exchange, the demo application runs on. -/
theorem Running.act (serves : Serves m r) (distinct : m.collectors.names.Nodup)
    (apart : ∀ name ∈ m.collectors.names, name ≠ greetings.name) {w : World} (h : Running m w)
    (a : Action) : Running m (w.act r a) := by
  have quiet : w.Quiet m.collectors r a := by
    cases a with
    | answer id elapsed => exact fun _ x _ _ => serves.spares apart x.request
    | arrive id request | poll id | drop id => trivial
  have account := step_tallied distinct serves.owing (.act a quiet) h.account
  cases a with
  | arrive id request =>
      refine ⟨account, h.recorder, ?_, ?_, ?_⟩
      · exact List.forall_mem_append.mpr ⟨h.stems, List.forall_mem_singleton.mpr nofun⟩
      · refine List.forall_mem_append.mpr ⟨h.readable, List.forall_mem_singleton.mpr ?_⟩
        rintro ⟨-, none⟩
        cases none
      · have shown := h.shown
        simpa [World.act, greetedIn, Greeted, Exchange.status?] using shown
  | answer id elapsed =>
      refine h.change account fun x member => ?_
      have balanced := h.account.balanced x member
      have stems := h.stems x member
      have readable := h.readable x member
      obtain ⟨id, request, stage⟩ := x
      cases stage with
      | waiting => exact serves.answer_turns apart elapsed h.recorder id request
      | crashed | opened answer body ended | closed answer =>
          exact turns_of_hands apart ⟨_, [], fun _ => rfl, hands_self balanced⟩ stems readable _ rfl
  | poll id =>
      refine h.change account fun x member => ?_
      exact turns_of_hands apart (poll_hands (h.account.balanced x member)) (h.stems x member)
        (h.readable x member) _ (x.status?_poll _)
  | drop id =>
      refine h.change account fun x member => ?_
      exact turns_of_hands apart (drop_hands (h.account.balanced x member)) (h.stems x member)
        (h.readable x member) _ (x.status?_drop _)

theorem Running.actAll (serves : Serves m r) (distinct : m.collectors.names.Nodup)
    (apart : ∀ name ∈ m.collectors.names, name ≠ greetings.name) {w : World} (h : Running m w)
    (actions : List Action) : Running m (w.actAll r actions) := by
  induction actions generalizing w with
  | nil => exact h
  | cons a actions ih => exact ih (h.act serves distinct apart a)

/-! ## The counter of the meter -/

/-- The labels of requests that were answered with a greeting. -/
def OfGreeting (labels : List (String × String)) : Prop :=
  labels.lookup "code" = some "200" ∧
    (labels.lookup "method" = some "GET" ∨ labels.lookup "method" = some "HEAD") ∧
    ((labels.lookup "path").bind segment?).isSome

instance : DecidablePred OfGreeting := fun _ => inferInstanceAs (Decidable (_ ∧ _ ∧ _))

/-- The series of a subsystem that count requests which were answered with a greeting. -/
def greetingSeries (c : Collectors) (r : Registry) : Table UInt64 :=
  r.counters.filter fun e => OfGreeting e.1.labels ∧ e.1.name = c.requests

theorem ofGreeting_labels (o : Observation) : OfGreeting (Collectors.labels o) ↔
    o.status = 200 ∧ (o.method = "GET" ∨ o.method = "HEAD") ∧ (segment? o.path).isSome := by
  have code : (Collectors.labels o).lookup "code" = some (Decimal.natural o.status) := rfl
  have method : (Collectors.labels o).lookup "method" = some o.method := rfl
  have path : (Collectors.labels o).lookup "path" = some o.path := rfl
  have fine : Decimal.natural 200 = "200" := by decide
  rw [OfGreeting, code, method, path, ← fine, Option.some.injEq, Option.some.injEq,
    Option.some.injEq, Option.bind_some]
  exact and_congr_left fun _ => ⟨Decimal.natural_injective, congrArg _⟩

/-- A response that is measured is observed as a greeting just when it is one. -/
theorem ofGreeting_observation {path : String} {request : Request} (other : request.path ≠ path)
    (answer : Answer) : OfGreeting (Collectors.labels (answer.observation request)) ↔
      Greeted path request (some answer.status) := by
  rw [ofGreeting_labels, Greeted, Greets, Option.some.injEq, and_comm]
  exact and_congr_left fun _ => and_congr_right fun _ => (and_iff_right other).symm

/-- An exchange that is over was observed as a greeting just when it is one. -/
theorem countP_finished {x : Exchange} (ended : x.isOpen = false) (path : String) :
    (x.finished path).countP (fun o => OfGreeting (Collectors.labels o)) = greetedIn path [x] := by
  obtain ⟨id, request, stage⟩ := x
  rw [greetedIn_singleton, Exchange.finished]
  by_cases own : request.path = path
  · simp [own, Greeted, Greets]
  · have measured : ∀ answer : Answer,
        [answer.observation request].countP (fun o => OfGreeting (Collectors.labels o)) =
          if Greeted path request (some answer.status) then 1 else 0 := by
      intro answer
      rw [List.countP_singleton]
      exact if_congr (decide_eq_true_iff.trans (ofGreeting_observation own answer)) rfl rfl
    rw [if_neg own]
    cases stage with
    | waiting | crashed => simp [Exchange.finished?, Greeted, Exchange.status?]
    | opened answer body done =>
        cases done with
        | false => cases ended
        | true => exact measured answer
    | closed answer => exact measured answer

theorem countP_finished_all {w : World} (settled : ∀ x ∈ w.exchanges, x.isOpen = false)
    (path : String) : (w.finished path).countP (fun o => OfGreeting (Collectors.labels o)) =
      greetedIn path w.exchanges := by
  obtain ⟨t, exchanges⟩ := w
  rw [World.finished]
  simp only at settled ⊢
  induction exchanges with
  | nil => rfl
  | cons x rest ih =>
      obtain ⟨ended, others⟩ := List.forall_mem_cons.mp settled
      have first := countP_finished ended path
      rw [List.flatMap_cons, List.countP_append, first, ih others, ← greetedIn_append]
      rfl

/-- What the series for greetings show together, after some observations. -/
theorem total_greetingSeries {c : Collectors} {r : Registry} {done : List Observation}
    (shown : c.readingsIn r = some (done.foldl (.observe c) {})) :
    Table.total (greetingSeries c r) % 2 ^ 64 =
        done.countP (fun o => OfGreeting (Collectors.labels o)) % 2 ^ 64 ∧
      Table.total (greetingSeries c r) ≤
        done.countP (fun o => OfGreeting (Collectors.labels o)) := by
  obtain ⟨-, -, -, requests⟩ := Collectors.readingsIn_eq_some.mp shown
  have counted : r.counters.filter (·.1.name = c.requests) =
      Table.countAll (fun o => ⟨c.requests, Collectors.labels o⟩) done [] := by
    rw [requests, foldl_observe]
  have series : greetingSeries c r = Table.countAll (fun o => ⟨c.requests, Collectors.labels o⟩)
      (done.filter fun o => OfGreeting (Collectors.labels o)) [] := by
    have chosen := Table.filter_countAll (fun k => OfGreeting k.labels)
      (fun o => (⟨c.requests, Collectors.labels o⟩ : Key)) done []
    rw [← counted, List.filter_filter] at chosen
    simp only [greetingSeries, Bool.decide_and]
    exact chosen
  have all := Table.total_countAll (fun o => (⟨c.requests, Collectors.labels o⟩ : Key))
    (done.filter fun o => OfGreeting (Collectors.labels o)) []
  have most := Table.total_countAll_le (fun o => (⟨c.requests, Collectors.labels o⟩ : Key))
    (done.filter fun o => OfGreeting (Collectors.labels o)) []
  have nothing : Table.total [] = 0 := rfl
  rw [nothing, Nat.zero_add, ← List.countP_eq_length_filter, ← series] at all most
  exact ⟨all, most⟩

/-! ## From the start -/

/-- The demo application starts with nothing counted. -/
theorem running_launch {registry : Registry} (fresh : Fresh registry) {subsystem path : String}
    {accounts : Option Auth.Accounts} {app : App}
    (launched : launch registry subsystem path accounts = .ok app)
    (unmarked : path.toList.any Piece.isMark = false) :
    app.meter = ⟨Collectors.ofSubsystem 0 subsystem, path⟩ ∧ Serves app.meter app.router ∧
      Running app.meter { telemetry := app.telemetry } := by
  obtain ⟨made, m, plain, new, all, meter, attached⟩ := launch_eq_ok launched
  obtain ⟨-, nothing⟩ := readings?_new fresh new
  obtain ⟨rfl, enrolled⟩ := enrolled_of_new new
  have unchanged := RequestMeter.registries_attach app.meter accounts made plain
  have recorder := RequestMeter.recorder_attach app.meter accounts made plain
  rw [attached] at unchanged recorder
  simp only at unchanged recorder
  have counters : (enrolAll registry (Collectors.ofSubsystem 0 subsystem).claims).counters = [] :=
    (enrolAll_extends registry _).counters.trans fresh.no_series.1
  have serves : Serves app.meter app.router := by
    rw [meter] at attached ⊢
    exact sent_select all (congrArg Prod.snd attached) unmarked
  have nobody : ∀ {P : Exchange → Prop}, ∀ x ∈ ([] : List Exchange), P x := List.forall_mem_nil _
  refine ⟨meter, serves, ⟨nobody, [], .nil, ?_⟩, ?_, nobody, nobody, ?_⟩
  · rw [meter]
    exact (Collectors.readings?_congr unchanged).trans nothing
  · rw [meter]
    refine recorder.trans ?_
    rw [enrolled]
    rfl
  · rw [meter]
    refine ⟨enrolAll registry (Collectors.ofSubsystem 0 subsystem).claims, ?_, ?_⟩
    · simp only [unchanged, enrolled]
      rfl
    · rw [Counts, counters]
      rfl

/-- What is expected of the two counts of greetings, after some exchanges. -/
structure Consistent (c : Collectors) (path : String) (xs : List Exchange) (r : Registry) :
    Prop where
  /-- The handler has counted those that were greeted. -/
  handler : Counts (greetedIn path xs) r
  /-- The meter has counted them, too. -/
  meter : Table.total (greetingSeries c r) % 2 ^ 64 = greetedIn path xs % 2 ^ 64
  /-- Both show the same, as far as 64 bits can. -/
  agree : ((Table.find? r.counters greetings).getD 0).toNat =
    Table.total (greetingSeries c r) % 2 ^ 64
  equal : greetedIn path xs < 2 ^ 64 →
    Table.total (greetingSeries c r) = ((Table.find? r.counters greetings).getD 0).toNat
  /-- Nobody else was greeted than whose path has just one more segment, in which a name can be
  read. -/
  only : ∀ x ∈ xs, Greeted path x.request x.status? → x.request.path ≠ path ∧
    (x.request.method = "GET" ∨ x.request.method = "HEAD") ∧
    ∃ segment name, x.request.path = "/hello/" ++ segment ∧ segment ≠ "" ∧
      '/' ∉ segment.toList ∧ Text.Percent.decode? segment = some name

/-- However requests of the demo application overlap, once all responses have ended or were dropped
the greetings that it has counted are those that its meter has counted. -/
theorem launch_greetings {registry : Registry} (fresh : Fresh registry) {subsystem path : String}
    {accounts : Option Auth.Accounts} {app : App}
    (launched : launch registry subsystem path accounts = .ok app)
    (unmarked : path.toList.any Piece.isMark = false) {actions : List Action}
    (settled : ∀ x ∈ (World.after app.router app.telemetry actions).exchanges, x.isOpen = false) :
    ∃ r, (World.after app.router app.telemetry actions).telemetry.registries[0]? = some r ∧
      Consistent (Collectors.ofSubsystem 0 subsystem) path
        (World.after app.router app.telemetry actions).exchanges r := by
  obtain ⟨meter, serves, start⟩ := running_launch fresh launched unmarked
  have apart := ne_greetings 0 subsystem
  have distinct : (Collectors.ofSubsystem 0 subsystem).names.Nodup :=
    Collectors.distinct_claims 0 subsystem
  have run : Running app.meter (World.after app.router app.telemetry actions) :=
    start.actAll serves (by rw [meter]; exact distinct) (by rw [meter]; exact apart) actions
  rw [meter] at run
  obtain ⟨r, found, counts⟩ := run.shown
  obtain ⟨done, all, readings⟩ := run.account.readings
  refine ⟨r, found, ?_⟩
  have shown : (Collectors.ofSubsystem 0 subsystem).readingsIn r =
      some (done.foldl (.observe (Collectors.ofSubsystem 0 subsystem)) {}) := by
    rw [Collectors.readings?, found] at readings
    exact readings
  obtain ⟨same, most⟩ := total_greetingSeries shown
  have counted : done.countP (fun o => OfGreeting (Collectors.labels o)) =
      greetedIn path (World.after app.router app.telemetry actions).exchanges :=
    (all.countP_eq _).trans (countP_finished_all settled path)
  rw [counted] at same most
  have value : ((Table.find? r.counters greetings).getD 0).toNat =
      greetedIn path (World.after app.router app.telemetry actions).exchanges % 2 ^ 64 := by
    rw [counts.getD]
    exact UInt64.toNat_ofNat
  refine ⟨counts, same, value.trans same.symm, ?_, ?_⟩
  · intro small
    rw [value, Nat.mod_eq_of_lt small]
    rw [Nat.mod_eq_of_lt small, Nat.mod_eq_of_lt (Nat.lt_of_le_of_lt most small)] at same
    exact same
  · intro x member greeted
    obtain ⟨name, read⟩ := Option.isSome_iff_exists.mp (run.readable x member greeted)
    obtain ⟨segment, found, decoded⟩ := Option.bind_eq_some_iff.mp read
    obtain ⟨text, some, solid⟩ := segment?_eq_some.mp found
    exact ⟨greeted.1.2.1, greeted.1.1, segment, name, text, some, solid, decoded⟩

/-- Two are greeted, then a name cannot be read, and in between the page is shown. -/
def visits : List Action :=
  let get (path : String) : Request := { method := "GET", target := { path } }
  [.arrive 0 (get "/hello/bob"), .arrive 1 { get "/hello/%41da" with method := "HEAD" },
    .answer 1 1, .arrive 2 (get "/hello/metrics"), .answer 0 1, .answer 2 1,
    .arrive 3 (get "/hello/%FF"), .answer 3 1, .poll 3, .drop 3, .drop 2, .drop 0]

theorem launch_greetings_visits :
    ∃ app r, launch Registry.empty "http" "/hello/metrics" none = .ok app ∧
      greetedIn "/hello/metrics" (World.after app.router app.telemetry visits).exchanges = 2 ∧
      (World.after app.router app.telemetry visits).telemetry.registries[0]? = some r ∧
      Consistent (Collectors.ofSubsystem 0 "http") "/hello/metrics"
        (World.after app.router app.telemetry visits).exchanges r := by
  have ran : (launch Registry.empty "http" "/hello/metrics" none).toOption.any (fun app =>
      let w := World.after app.router app.telemetry visits
      w.exchanges.all (!·.isOpen) && greetedIn "/hello/metrics" w.exchanges == 2) = true := by
    decide +kernel
  cases launched : launch Registry.empty "http" "/hello/metrics" none with
  | error cause =>
      rw [launched] at ran
      cases ran
  | ok app =>
      simp only [launched, Except.toOption, Option.any_some, Bool.and_eq_true] at ran
      obtain ⟨settled, two⟩ := ran
      obtain ⟨r, found, consistent⟩ := launch_greetings (.inl rfl) launched (by decide)
        fun x member => by simpa using List.all_eq_true.mp settled x member
      exact ⟨app, r, rfl, eq_of_beq two, found, consistent⟩

end TrafficMeter.Demo
