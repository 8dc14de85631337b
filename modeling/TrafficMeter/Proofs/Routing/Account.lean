import TrafficMeter.Proofs.Routing.Effects
import TrafficMeter.Proofs.Routing.Exchanges

/-!
# The account that a meter keeps

Whatever the order of arrivals, answers, crashes, polls and drops, and whatever else happens
outside of the families: what a meter shows after every step is the account of the responses that
have ended or were dropped by then, each observed once. A response under way is owed exactly one
observation, which its body holds; a request to the exporter is owed none.
-/

namespace TrafficMeter.Routing

open TrafficMeter.Http (Request Poll)
open TrafficMeter.Traffic (Telemetry Collectors Observation Readings Body Pending Response)

variable {c : Collectors} {path : String}

/-- What a body owes to a meter, if its exchange is to be observed once. -/
def Owes (c : Collectors) (owed : List Observation) (body : Body) : Prop :=
  c.due body.close = owed ∧ ∀ q ∈ body.close, q.collectors = c ∨ q.collectors.Apart c

/-- An exchange under way owes one observation, unless it goes to the exporter or has ended. -/
def Exchange.Balanced (c : Collectors) (path : String) (x : Exchange) : Prop :=
  match x.stage with
  | .opened answer body ended =>
      Owes c (if x.request.path = path ∨ ended = true then [] else [answer.observation x.request])
        body
  | _ => True

/-- The requests that dropping an exchange hands out. -/
def Exchange.pending (x : Exchange) : List Pending :=
  match x.stage with
  | .opened _ body _ => body.close
  | _ => []

/-- Of what is owed, changing an exchange hands out what is due for what it newly finishes. -/
structure Hands (c : Collectors) (path : String) (owed : List Pending) (x after : Exchange)
    (handed : List Pending) : Prop where
  balanced : after.Balanced c path
  finished : (after.finished path).Perm (x.finished path ++ c.due handed)
  others : ∀ q ∈ handed, q.collectors = c ∨ q.collectors.Apart c
  stems : ∀ q, q ∈ handed ∨ q ∈ after.pending → ∃ p ∈ owed, q.collectors = p.collectors
  id : after.id = x.id
  request : after.request = x.request

/-- Nothing is handed out where nothing happens. -/
theorem hands_self {x : Exchange} (h : x.Balanced c path) : Hands c path x.pending x x [] where
  balanced := h
  finished := by
    rw [Collectors.due, List.filter_nil, List.map_nil, List.append_nil]
  others := by simp
  stems := by
    rintro q (none | member)
    · cases none
    · exact ⟨q, member, rfl⟩
  id := rfl
  request := rfl

theorem drop_hands {x : Exchange} (h : x.Balanced c path) : ∃ after handed,
    (∀ t, x.drop t = (t.settle handed, after)) ∧ Hands c path x.pending x after handed := by
  obtain ⟨id, request, stage⟩ := x
  cases stage with
  | waiting | crashed | closed answer => exact ⟨_, [], fun _ => rfl, hands_self h⟩
  | opened answer body ended =>
      refine ⟨_, body.close, fun _ => rfl, trivial, ?_, h.2, ?_, rfl, rfl⟩
      · rw [h.1]
        by_cases own : request.path = path
        · simp [Exchange.finished, own]
        · cases ended <;> simp [Exchange.finished, Exchange.finished?, own]
      · rintro q (member | none)
        · exact ⟨q, member, rfl⟩
        · cases none

theorem poll_hands {x : Exchange} (h : x.Balanced c path) : ∃ after handed,
    (∀ t, x.poll t = (t.settle handed, after)) ∧ Hands c path x.pending x after handed := by
  obtain ⟨id, request, stage⟩ := x
  cases stage with
  | waiting | crashed | closed answer => exact ⟨_, [], fun _ => rfl, hands_self h⟩
  | opened answer body ended =>
      obtain ⟨p, after, done, polled⟩ : ∃ p after done, body.poll = (p, after, done) :=
        ⟨_, _, _, rfl⟩
      obtain ⟨due, others⟩ := h
      let delivered := if ended then answer.delivered else answer.delivered + p.dataBytes
      refine ⟨⟨id, request, .opened { answer with delivered } after (ended || p = .finished)⟩, done,
        fun t => by simp only [Exchange.poll, Telemetry.poll, polled, delivered], ?_⟩
      rcases Body.poll_cases polled with ⟨rfl, all, none⟩ | ⟨going, rfl, grown⟩
      · -- the end: what was owed is handed out, unless that was done at an earlier end
        have handed := c.due_perm all
        rw [due] at handed
        refine ⟨⟨by rw [none]; simp [Collectors.due], by rw [none]; simp⟩, ?_,
          fun q hq => others q (all.mem_iff.mp hq), ?_, rfl, rfl⟩
        · by_cases own : request.path = path
          · simpa [Exchange.finished, own] using handed.symm
          · cases ended with
            | true =>
                simpa [Exchange.finished, Exchange.finished?, own, delivered] using handed.symm
            | false =>
                simpa [Exchange.finished, Exchange.finished?, own, delivered, Poll.dataBytes] using
                  handed.symm
        · rintro q (member | left)
          · exact ⟨q, all.mem_iff.mp member, rfl⟩
          · change q ∈ after.close at left
            rw [none] at left
            cases left
      · -- no end: the data makes the owed response size grow
        refine ⟨⟨?_, ?_⟩, ?_, by simp, ?_, rfl, rfl⟩
        · rw [grown, c.due_grow, due]
          by_cases own : request.path = path
          · simp [own]
          · cases ended with
            | true => simp
            | false => simp [own, going, Answer.observation, delivered]
        · rw [grown]
          intro q hq
          obtain ⟨old, ho, rfl⟩ := List.mem_map.mp hq
          exact others old ho
        · by_cases own : request.path = path
          · simp [Exchange.finished, own, Collectors.due]
          · cases ended with
            | true => simp [Exchange.finished, Exchange.finished?, own, Collectors.due, delivered]
            | false => simp [Exchange.finished, Exchange.finished?, own, going, Collectors.due]
        · rintro q (none | left)
          · cases none
          · change q ∈ after.close at left
            rw [grown] at left
            obtain ⟨old, ho, rfl⟩ := List.mem_map.mp left
            exact ⟨old, ho, rfl⟩

/-- Changing an exchange keeps it balanced, and observes what it newly finishes. -/
def Settles (c : Collectors) (path : String) (t : Telemetry) (x : Exchange)
    (after : Telemetry × Exchange) : Prop :=
  after.2.Balanced c path ∧
    ∃ more, (after.2.finished path).Perm (x.finished path ++ more) ∧
      ∀ rd, c.readings? t = some rd → c.readings? after.1 = some (more.foldl (.observe c) rd)

theorem settles_self {t : Telemetry} {x : Exchange} (h : x.Balanced c path) :
    Settles c path t x (t, x) :=
  ⟨h, [], by rw [List.append_nil], fun _ hr => hr⟩

theorem Hands.settles (distinct : c.names.Nodup) {owed handed : List Pending} {x after : Exchange}
    (h : Hands c path owed x after handed) {t u : Telemetry}
    (kept : c.readings? u = c.readings? t) : Settles c path t x (u.settle handed, after) :=
  ⟨h.balanced, c.due handed, h.finished, fun _ hr =>
    Collectors.readings?_settle distinct h.others (kept.trans hr)⟩

theorem drop_settles (distinct : c.names.Nodup) (t : Telemetry) {x : Exchange}
    (h : x.Balanced c path) : Settles c path t x (x.drop t) := by
  obtain ⟨after, handed, dropped, hands⟩ := drop_hands h
  rw [dropped]
  exact hands.settles distinct rfl

theorem poll_settles (distinct : c.names.Nodup) (t : Telemetry) {x : Exchange}
    (h : x.Balanced c path) : Settles c path t x (x.poll t) := by
  obtain ⟨after, handed, polled, hands⟩ := poll_hands h
  rw [polled]
  exact hands.settles distinct rfl

/-! ## Answers -/

/-- A core that leaves the families alone answers without changing their readings. -/
theorem readings?_respondThrough {core : Core} {request : Request}
    {captures : List (String × String)} (elapsed : Float) (layers : List Layer) {t : Telemetry}
    (spares : t.recorder = some c.registry → ∀ h, core = .handler h →
      ∀ w ∈ (h request captures).writes, c.SparedBy w) :
    c.readings? (respondThrough core request captures elapsed layers t).1 = c.readings? t := by
  rw [Collectors.readings?, Collectors.readings?, registries_respondThrough, Option.bind_map]
  congr 1
  funext r
  simp only [Function.comp_apply]
  split
  · cases core with
    | handler h =>
        rw [Core.effect]
        split
        · next here => exact Collectors.readingsIn_applyAll_of_spared (spares here h rfl) r
        · rfl
    | exporter id =>
        rw [Core.effect]
        split
        · exact Collectors.readingsIn_tally c r
        · rfl
  · rfl

/-- All services of a router are metered by `c`, and by no other meter that shares its families. -/
def Router.MeteredBy (c : Collectors) (path : String) (r : Router) : Prop :=
  ∀ s ∈ r.services, ∃ inner : Service, s = inner.wrap (.meter ⟨c, path⟩) ∧
    ∀ m, .meter m ∈ inner.layers → m.collectors.Apart c

/-- A service whose meters are for other families owes nothing. -/
theorem respond_owes_nil {s : Service} (apart : ∀ m, .meter m ∈ s.layers → m.collectors.Apart c)
    {t : Telemetry} {request : Request} {captures : List (String × String)} {elapsed : Float}
    {response : Response} (answered : (s.respond t request captures elapsed).2 = .ok response) :
    Owes c [] response.body := by
  have foreign : ∀ q ∈ response.body.close, q.collectors.Apart c := by
    intro q member
    obtain ⟨m, inside, -, same⟩ := mem_close_respondThrough answered q member
    rw [same]
    exact apart m inside
  exact ⟨Collectors.due_of_apart foreign, fun q member => .inr (foreign q member)⟩

/-- A metered service owes one observation for each response, except to the exporter's path. -/
theorem respond_owes {s inner : Service} (metered : s = inner.wrap (.meter ⟨c, path⟩))
    (apart : ∀ m, .meter m ∈ inner.layers → m.collectors.Apart c) {t : Telemetry}
    {request : Request} {captures : List (String × String)} {elapsed : Float} {response : Response}
    (answered : (s.respond t request captures elapsed).2 = .ok response) :
    Owes c (if request.path = path then []
      else [({ status := response.status, elapsed } : Answer).observation request])
      response.body := by
  subst metered
  rw [Service.respond, Service.wrap] at answered
  by_cases own : request.path = path
  · rw [respondThrough_meter_own _ _ _ _ _ own] at answered
    rw [if_pos own]
    exact respond_owes_nil apart answered
  · rw [if_neg own]
    obtain ⟨size, plain, sized, inside, rfl⟩ := measured_of_answered own answered
    obtain ⟨none, others⟩ := respond_owes_nil apart inside
    refine ⟨?_, ?_⟩
    · simp only [Collectors.due, List.map_eq_nil_iff] at none
      simp [Collectors.due, Meter.measure, Body.close, Body.settled, Pending.settle, none,
        Answer.observation, Request.ofNat_bytes sized]
    · intro q hq
      rcases List.mem_append.mp hq with here | deeper
      · cases List.mem_singleton.mp here
        exact .inl rfl
      · exact others q deeper

/-- The requests that an answer holds. -/
def owedBy (outcome : Except String Response) : List Pending :=
  match outcome with
  | .ok response => response.body.close
  | .error _ => []

theorem mem_owedBy {outcome : Except String Response} {q : Pending} (member : q ∈ owedBy outcome) :
    ∃ response, outcome = .ok response ∧ q ∈ response.body.close := by
  cases outcome with
  | error message => cases member
  | ok response => exact ⟨response, rfl, member⟩

/-- An answer whose body is dropped by the router hands out what it owes, and others nothing. -/
theorem answer_hands (r : Router) (elapsed : Float) (id : Nat) {request : Request}
    {outcome : Except String Response}
    (owes : ∀ response, outcome = .ok response →
      Owes c (if request.path = path then []
        else [({ status := response.status, elapsed } : Answer).observation request])
        response.body) :
    ∃ after handed,
      (∀ t u, (r.select request).1.service.respond t request (r.select request).2 elapsed =
          (u, outcome) → Exchange.answer r elapsed t ⟨id, request, .waiting⟩ =
            (u.settle handed, after)) ∧
        Hands c path (owedBy outcome) ⟨id, request, .waiting⟩ after handed := by
  cases outcome with
  | error message =>
      refine ⟨⟨id, request, .crashed⟩, [], ?_, trivial, ?_, by simp, ?_, rfl, rfl⟩
      · intro t u answered
        simp only [Exchange.answer, Router.respond, answered]
        rfl
      · simp [Exchange.finished, Exchange.finished?, Collectors.due]
      · rintro q (none | none) <;> cases none
  | ok response =>
      have owed := owes response rfl
      let answer : Answer := { status := response.status, elapsed }
      cases strips : (r.select request).1.stripsBody with
      | true =>
          refine ⟨⟨id, request, .closed answer⟩, response.body.close, ?_, trivial, ?_, owed.2, ?_,
            rfl, rfl⟩
          · intro t u answered
            simp only [Exchange.answer, Router.respond, answered, Router.complete, strips]
            rfl
          · rw [owed.1]
            by_cases own : request.path = path <;>
              simp [Exchange.finished, Exchange.finished?, own, answer]
          · rintro q (member | none)
            · exact ⟨q, member, rfl⟩
            · cases none
      | false =>
          refine ⟨⟨id, request, .opened answer response.body false⟩, [], ?_, ?_, ?_, by simp, ?_,
            rfl, rfl⟩
          · intro t u answered
            simp only [Exchange.answer, Router.respond, answered, Router.complete, strips]
            rfl
          · simpa [Exchange.Balanced] using owed
          · simp [Exchange.finished, Exchange.finished?, Collectors.due]
          · rintro q (none | member)
            · cases none
            · exact ⟨q, member, rfl⟩

/-- What the responses of a router owe to `c`: one observation each, but for requests whose path is
the one that is put aside for them. -/
def Router.Owing (c : Collectors) (aside : Request → String) (r : Router) : Prop :=
  ∀ request t captures elapsed response,
    ((r.select request).1.service.respond t request captures elapsed).2 = .ok response →
      Owes c (if request.path = aside request then []
        else [({ status := response.status, elapsed } : Answer).observation request]) response.body

/-- A metered router owes one observation for each response, except to the exporter's path. -/
theorem Router.MeteredBy.owing {r : Router} (metered : r.MeteredBy c path) :
    r.Owing c fun _ => path := by
  intro request t captures elapsed response answered
  obtain ⟨inner, wrapped, apart⟩ := metered _ (r.select_mem request)
  exact respond_owes wrapped apart answered

theorem answer_settles (distinct : c.names.Nodup) {r : Router} {aside : Request → String}
    (owing : r.Owing c aside) (elapsed : Float) {t : Telemetry} {x : Exchange}
    (h : x.Balanced c (aside x.request))
    (spares : t.recorder = some c.registry → r.Spares c x.request) :
    Settles c (aside x.request) t x (x.answer r elapsed t) := by
  obtain ⟨id, request, stage⟩ := x
  cases stage with
  | crashed | opened answer body ended | closed answer => exact settles_self h
  | waiting =>
      obtain ⟨after, handed, answered, hands⟩ :=
        answer_hands r elapsed id fun response answered => owing request t _ _ response answered
      rw [answered t _ rfl]
      exact hands.settles distinct (readings?_respondThrough elapsed _ spares)

/-! ## Runs -/

/-- What must have been observed, if a path is put aside for each request. -/
def World.finishedBut (aside : Request → String) (w : World) : List Observation :=
  w.exchanges.flatMap fun x => x.finished (aside x.request)

/-- The readings are those before with the account of what has finished, and whatever is under way
is balanced. -/
structure World.Tallied (c : Collectors) (aside : Request → String) (before : Readings)
    (w : World) : Prop where
  balanced : ∀ x ∈ w.exchanges, x.Balanced c (aside x.request)
  readings : ∃ done : List Observation, done.Perm (w.finishedBut aside) ∧
    c.readings? w.telemetry = some (done.foldl (.observe c) before)

/-- What an exchange newly finishes comes after what was finished, but for the order. -/
theorem finishedBut_change {aside : Request → String} {before after : List Exchange}
    {x next : Exchange} {t u : Telemetry} {done more : List Observation}
    (all : done.Perm (World.finishedBut aside ⟨t, before ++ x :: after⟩))
    (same : next.request = x.request)
    (gained : (next.finished (aside x.request)).Perm (x.finished (aside x.request) ++ more)) :
    (done ++ more).Perm (World.finishedBut aside ⟨u, before ++ next :: after⟩) := by
  simp only [World.finishedBut, List.flatMap_append, List.flatMap_cons, same] at all ⊢
  refine (all.append_right more).trans ?_
  rw [List.append_assoc, List.append_assoc]
  refine List.Perm.append_left _ ?_
  refine (List.Perm.append_left _ List.perm_append_comm).trans ?_
  rw [← List.append_assoc]
  exact gained.symm.append_right _

theorem finished_change {before after : List Exchange} {x next : Exchange} {t u : Telemetry}
    {done more : List Observation}
    (all : done.Perm (World.finished path ⟨t, before ++ x :: after⟩))
    (same : next.request = x.request)
    (gained : (next.finished path).Perm (x.finished path ++ more)) :
    (done ++ more).Perm (World.finished path ⟨u, before ++ next :: after⟩) :=
  @finishedBut_change (fun _ => path) before after x next t u done more all same gained

/-- What holds of all exchanges holds of all after one of them has changed. -/
theorem forall_mem_change {P : Exchange → Prop} {before after : List Exchange} {x next : Exchange}
    (all : ∀ y ∈ before ++ x :: after, P y) (changed : P next) :
    ∀ y ∈ before ++ next :: after, P y := by
  simp only [List.forall_mem_append, List.forall_mem_cons] at all ⊢
  exact ⟨all.1, changed, all.2.2⟩

variable {aside : Request → String} {start : Readings}

theorem change_tallied {w : World} {id : Nat}
    {f : Telemetry → Exchange → Telemetry × Exchange} (keeps : KeepsRequest f)
    (h : w.Tallied c aside start)
    (settles : ∀ x ∈ w.exchanges, x.id = id →
      Settles c (aside x.request) w.telemetry x (f w.telemetry x)) :
    (w.change id f).Tallied c aside start := by
  obtain ⟨t, exchanges⟩ := w
  rw [World.change]
  rcases changeFirst_cases id f t exchanges with same | ⟨before, x, after, rfl, own, changed⟩
  · rw [same]
    exact h
  · obtain ⟨balanced, done, all, shown⟩ := h
    obtain ⟨kept, more, gained, settled⟩ := settles x (by simp) own
    have request := (keeps t x).2
    rw [changed]
    refine ⟨forall_mem_change balanced ?_, done ++ more,
      finishedBut_change all request gained, ?_⟩
    · rw [request]
      exact kept
    · rw [List.foldl_append]
      exact settled _ shown

theorem step_tallied (distinct : c.names.Nodup) {r : Router} (owing : r.Owing c aside)
    {w next : World} (step : Step c r w next) (h : w.Tallied c aside start) :
    next.Tallied c aside start := by
  cases step with
  | elsewhere t spared =>
      obtain ⟨balanced, done, all, shown⟩ := h
      exact ⟨balanced, done, all, spared.trans shown⟩
  | act a quiet =>
      cases a with
      | arrive id request =>
          obtain ⟨balanced, done, all, shown⟩ := h
          refine ⟨?_, done, ?_, shown⟩
          · intro x hx
            rcases List.mem_append.mp hx with old | new
            · exact balanced x old
            · rw [List.mem_singleton] at new
              subst new
              trivial
          · simpa [World.act, World.finishedBut, Exchange.finished, Exchange.finished?] using all
      | answer id elapsed =>
          refine change_tallied (keepsRequest_answer r elapsed) h fun x hx own => ?_
          exact answer_settles distinct owing elapsed (h.balanced x hx)
            fun here => quiet here x hx own
      | poll id =>
          exact change_tallied keepsRequest_poll h fun x hx _ =>
            poll_settles distinct _ (h.balanced x hx)
      | drop id =>
          exact change_tallied keepsRequest_drop h fun x hx _ =>
            drop_settles distinct _ (h.balanced x hx)

theorem run_tallied (distinct : c.names.Nodup) {r : Router} (owing : r.Owing c aside)
    {w last : World} (run : Run c r w last) (h : w.Tallied c aside start) :
    last.Tallied c aside start := by
  induction run with
  | refl => exact h
  | tail _ step ih => exact step_tallied distinct owing step ih

/-! ## Routers that are metered as a whole -/

/-- The readings are the account of what has finished, and whatever is under way is balanced. -/
structure World.Accounted (c : Collectors) (path : String) (w : World) : Prop where
  balanced : ∀ x ∈ w.exchanges, x.Balanced c path
  readings : ∃ done : List Observation, done.Perm (w.finished path) ∧
    c.readings? w.telemetry = some (done.foldl (.observe c) {})

theorem run_accounted (distinct : c.names.Nodup) {r : Router} (metered : r.MeteredBy c path)
    {w last : World} (run : Run c r w last) (h : w.Accounted c path) :
    last.Accounted c path := by
  obtain ⟨balanced, readings⟩ := run_tallied distinct metered.owing run ⟨h.balanced, h.readings⟩
  exact ⟨balanced, readings⟩

end TrafficMeter.Routing
