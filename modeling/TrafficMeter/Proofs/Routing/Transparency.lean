import TrafficMeter.Proofs.Routing.Shapes

/-!
# A metered router answers like the plain one

Nobody who sends a request or handles it can tell that it is measured. The metered router chooses
the service that the plain one chooses, that service is asked the same and does the same, and what
comes back differs in nothing that can be asked of a response. The one exception is in the choice:
next to the path of the exporter, a path with a slash too much or too little is not looked up among
the routes with captures, and then the metered router answers like the plain one without routes.

Main statement: `attach_transparent`.
-/

namespace TrafficMeter.Traffic

open TrafficMeter.Http (SizeHint)

namespace Body

/-- A body after it was asked so many times. -/
def after (b : Body) : Nat → Body
  | 0 => b
  | n + 1 => (b.after n).poll.2.1

/-- Two bodies that cannot be told apart, however often they were asked before. -/
def Alike (a b : Body) : Prop :=
  ∀ n, (a.after n).sizeHint = (b.after n).sizeHint ∧ (a.after n).isEnd = (b.after n).isEnd ∧
    (a.after n).poll.1 = (b.after n).poll.1

theorem Alike.refl (b : Body) : b.Alike b := fun _ => ⟨rfl, rfl, rfl⟩

theorem Alike.symm {a b : Body} (h : a.Alike b) : b.Alike a := fun n =>
  ⟨(h n).1.symm, (h n).2.1.symm, (h n).2.2.symm⟩

theorem Alike.trans {a b c : Body} (h : a.Alike b) (k : b.Alike c) : a.Alike c := fun n =>
  ⟨(h n).1.trans (k n).1, (h n).2.1.trans (k n).2.1, (h n).2.2.trans (k n).2.2⟩

/-- What is counted is all that a metered body has besides the body inside it. -/
theorem after_metered (pending : Option Pending) (written : UInt64) (inner : Body) (n : Nat) :
    ∃ left count, (metered pending written inner).after n = metered left count (inner.after n) := by
  induction n with
  | zero => exact ⟨pending, written, rfl⟩
  | succ n ih =>
      obtain ⟨left, count, same⟩ := ih
      rw [after, after, same, poll]
      simp only
      split
      · exact ⟨_, _, rfl⟩
      · exact ⟨_, _, rfl⟩
      · exact ⟨_, _, rfl⟩
      · exact ⟨_, _, rfl⟩
      · exact ⟨_, _, rfl⟩

theorem alike_metered (pending : Option Pending) (written : UInt64) (inner : Body) :
    (metered pending written inner).Alike inner := by
  intro n
  obtain ⟨left, count, same⟩ := after_metered pending written inner n
  rw [same]
  exact ⟨rfl, rfl, poll_metered_fst left count _⟩

end Body

/-- Two responses that cannot be told apart. -/
structure Response.Alike (a b : Response) : Prop where
  status : a.status = b.status
  headers : a.headers = b.headers
  body : a.body.Alike b.body

theorem Response.Alike.refl (a : Response) : a.Alike a := ⟨rfl, rfl, .refl a.body⟩

end TrafficMeter.Traffic

namespace TrafficMeter.Routing

open TrafficMeter.Http (Request)
open TrafficMeter.Traffic (Telemetry Response Body Collectors)

/-- Two outcomes that cannot be told apart: the same crash, or responses that are alike. -/
inductive Matches : Except String Response → Except String Response → Prop
  | crashed (message : String) : Matches (.error message) (.error message)
  | answered {a b : Response} (h : a.Alike b) : Matches (.ok a) (.ok b)

namespace Matches

theorem refl (a : Except String Response) : Matches a a := by
  cases a with
  | error message => exact .crashed message
  | ok response => exact .answered (.refl response)

theorem status {a b : Except String Response} (h : Matches a b) :
    a.toOption.map Response.status = b.toOption.map Response.status := by
  cases h with
  | crashed message => rfl
  | answered alike => exact congrArg some alike.status

/-- A response that is measured on one side. -/
theorem measure_left {a b : Except String Response} (h : Matches a b) (m : Meter)
    (request : Request) (elapsed : Float) (size : UInt64) :
    Matches (a.map (m.measure request elapsed size)) b := by
  cases h with
  | crashed message => exact .crashed message
  | answered alike =>
      exact .answered ⟨alike.status, alike.headers, (Body.alike_metered _ _ _).trans alike.body⟩

/-- A response that is measured on the other side. -/
theorem measure_right {a b : Except String Response} (h : Matches a b) (m : Meter)
    (request : Request) (elapsed : Float) (size : UInt64) :
    Matches a (b.map (m.measure request elapsed size)) := by
  cases h with
  | crashed message => exact .crashed message
  | answered alike =>
      refine .answered ⟨alike.status, alike.headers, alike.body.trans ?_⟩
      exact (Body.alike_metered _ _ _).symm

end Matches

variable {core : Core} {request : Request} {captures : List (String × String)}
  {elapsed other : Float}

/-- The time that a request takes cannot be told from its answer. -/
theorem respondThrough_matches (layers : List Layer) (t : Telemetry) :
    (respondThrough core request captures elapsed layers t).1 =
        (respondThrough core request captures other layers t).1 ∧
      Matches (respondThrough core request captures elapsed layers t).2
        (respondThrough core request captures other layers t).2 := by
  induction layers generalizing t with
  | nil => exact ⟨rfl, .refl _⟩
  | cons layer inner ih =>
      cases layer with
      | gate accounts =>
          rw [respondThrough, respondThrough]
          split
          · exact ih _
          · exact ⟨rfl, .refl _⟩
      | meter m =>
          rw [respondThrough, respondThrough]
          split
          · exact ih t
          · split
            · next size sized =>
                obtain ⟨plain, both⟩ := ih t
                refine ⟨plain, ?_⟩
                exact (both.measure_left m request elapsed size).measure_right m request other size
            · exact ⟨rfl, .refl _⟩

/-- A meter around a service cannot be told from its answer to a request that has a size, or that is
not measured. -/
theorem respond_wrap_matches (m : Meter) (s : Service) (t : Telemetry)
    (passes : request.path = m.exporterPath ∨ request.Fits) :
    ((s.wrap (.meter m)).respond t request captures elapsed).1 =
        (s.respond t request captures other).1 ∧
      Matches ((s.wrap (.meter m)).respond t request captures elapsed).2
        (s.respond t request captures other).2 := by
  have inner := @respondThrough_matches s.core request captures elapsed other s.layers t
  rw [Service.respond, Service.respond, Service.wrap]
  by_cases own : request.path = m.exporterPath
  · rw [respondThrough_meter_own _ _ _ _ _ own]
    exact inner
  · obtain ⟨size, sized⟩ := (passes.resolve_left own).exists_approximateSize
    rw [respondThrough_meter_sized _ _ _ _ _ own sized]
    exact ⟨inner.1, inner.2.measure_left m request elapsed size⟩

namespace Router

/-- Responses that are alike are completed alike, even where the body is dropped. -/
theorem complete_alike {s s' : Selection} (allow : s.allow = s'.allow)
    (strips : s.stripsBody = s'.stripsBody) {a b : Response} (h : a.Alike b) (t u : Telemetry) :
    (complete t s a).2.Alike (complete u s' b).2 := by
  have size : a.body.sizeHint = b.body.sizeHint := (h.body 0).1
  rw [complete, complete, allow, strips, h.headers, size]
  cases s'.stripsBody with
  | true => exact ⟨h.status, rfl, .refl _⟩
  | false => exact ⟨h.status, rfl, h.body⟩

/-- For a request one router can be put in the place of another, but for what it measures: the same
core is asked with the same captures, it has the same effect, and the answers cannot be told apart,
however long they take. -/
structure Imitates (metered plain : Router) (request : Request) : Prop where
  core : (metered.select request).1.service.core = (plain.select request).1.service.core
  captures : (metered.select request).2 = (plain.select request).2
  effect : ∀ (t : Telemetry) (elapsed other : Float),
    ((metered.select request).1.service.respond t request (metered.select request).2 elapsed).1 =
      ((plain.select request).1.service.respond t request (plain.select request).2 other).1
  answer : ∀ (t : Telemetry) (elapsed other : Float),
    Matches (metered.respond t request elapsed).2 (plain.respond t request other).2

/-- A router that puts a meter around what another one chooses imitates it, for requests that have a
size. -/
theorem imitates_of_select {metered plain : Router} {m : Meter} (fits : request.Fits)
    (chosen : metered.select request =
      ({ (plain.select request).1 with
          service := (plain.select request).1.service.wrap (.meter m) },
        (plain.select request).2)) :
    metered.Imitates plain request := by
  refine ⟨by rw [chosen]; rfl, by rw [chosen], ?_, ?_⟩
  · intro t elapsed other
    rw [chosen]
    exact (respond_wrap_matches m _ t (.inr fits)).1
  · intro t elapsed other
    rw [respond, respond, chosen]
    obtain ⟨selection, captures⟩ := plain.select request
    obtain ⟨effect, answer⟩ :=
      @respond_wrap_matches request captures elapsed other m selection.service t (.inr fits)
    simp only
    rcases left : (selection.service.wrap (.meter m)).respond t request captures elapsed with ⟨u, a⟩
    rcases right : selection.service.respond t request captures other with ⟨v, b⟩
    rw [left, right] at answer
    cases answer with
    | crashed message => exact .crashed message
    | answered alike => exact .answered (complete_alike rfl rfl alike u v)

/-- A router without routes sends everything to its fallback. -/
theorem find?_of_no_routes (r : Router) (path : String) :
    { r with routes := [] }.find? path = none := by
  have failed : Bundle.find? (α := Route) [] (Text.bytes path) = none := by
    rw [Bundle.find?, Bundle.search_eq, Bundle.advance_nil, Outcome.failure]
    split <;> rfl
  rw [find?]
  exact congrArg (Option.map _) failed

end Router

namespace RequestMeter

variable {m : RequestMeter} {accounts : Option Auth.Accounts} {t : Telemetry}
  {plain metered : Router}

theorem fallback_attach (done : (m.attach accounts t plain).2 = .ok metered) :
    metered.fallback = plain.fallback.wrap m.layer := by
  obtain ⟨-, added, hadd, rfl⟩ := attach_eq_ok_iff.mp done
  rw [← Router.fallback_add hadd]
  rfl

end RequestMeter

/-- A metered router imitates the plain one for every request whose size is a word of 64 bits,
except that a request which the plain one sends to a route with captures may be treated as if there
were no routes. This happens next to the path of the exporter only: to its beginnings with a slash
behind them, and to the path without its last slash. -/
theorem attach_transparent {m : RequestMeter} {accounts : Option Auth.Accounts} {t : Telemetry}
    {plain metered : Router} (built : plain.Built)
    (done : (m.attach accounts t plain).2 = .ok metered)
    (unmarked : m.exporterPath.toList.any Piece.isMark = false) {request : Request}
    (elsewhere : request.path ≠ m.exporterPath) (fits : request.Fits) :
    metered.Imitates plain request ∨
      SlashOff (Text.bytes m.exporterPath) (Text.bytes request.path) ∧
        (∃ route captures, plain.find? request.path = some (route, captures) ∧
          route.path.toList.any Piece.isMark = true) ∧
        metered.Imitates { plain with routes := [] } request := by
  have fallback := RequestMeter.fallback_attach done
  rcases RequestMeter.find?_attach built done unmarked elsewhere with
    same | ⟨lost, off, marked⟩
  · refine .inl (Router.imitates_of_select (m := ⟨m.collectors, m.exporterPath⟩) fits ?_)
    rw [Router.select, Router.select, same]
    cases plain.find? request.path with
    | none => rw [fallback]; rfl
    | some hit =>
        obtain ⟨route, captures⟩ := hit
        simp only [Option.map_some, MethodTable.select_wrap]
        rfl
  · refine .inr ⟨off, marked, ?_⟩
    refine Router.imitates_of_select (m := ⟨m.collectors, m.exporterPath⟩) fits ?_
    rw [Router.select, Router.select, lost, Router.find?_of_no_routes, fallback]
    rfl

/-! ## A router with one route for all paths -/

/-- A router that sends every path to one route. -/
def catchAll : Router :=
  let table := MethodTable.single .get
    (Service.ofHandler (Handler.constant { source := .whole "x" }))
  { routes := [⟨"/*rest", [.byte slash, .rest "rest"], table⟩] }

theorem built_catchAll : catchAll.Built := by
  have begins : "/*rest".startsWith "/" = true := String.startsWith_string_iff.mpr (by decide)
  have added : Router.add {} "/*rest"
      (.single .get (Service.ofHandler (Handler.constant { source := .whole "x" }))) =
      .ok catchAll := by
    rw [Router.add, begins]
    rfl
  exact .add .empty added

/-- A meter with its exporter at the usual path. -/
def usualMeter : RequestMeter := ⟨Collectors.ofSubsystem 0 "s", "/metrics"⟩

/-- The router for all paths with the meter attached. -/
def meteredCatchAll : Router :=
  let exporter := MethodTable.single .get (usualMeter.exporter none)
  let own : Route := ⟨"/metrics", Piece.plain (Text.bytes "/metrics"), exporter⟩
  Router.wrap { catchAll with routes := catchAll.routes ++ [own] } usualMeter.layer

theorem attach_catchAll : (usualMeter.attach none {} catchAll).2 = .ok meteredCatchAll := by
  have new : ∀ route ∈ catchAll.routes, route.path ≠ "/metrics" := by decide
  have added := built_catchAll.faithful.add_plain (by decide) (by decide) new
    (.single .get (usualMeter.exporter none))
  exact RequestMeter.attach_eq_ok_iff.mpr ⟨by decide, _, added, rfl⟩

theorem attach_transparent_catchAll :
    let request : Request := { method := "GET", target := { path := "/users" } }
    request.path ≠ usualMeter.exporterPath ∧ request.Fits ∧
      meteredCatchAll.Imitates catchAll request := by
  intro request
  have elsewhere : request.path ≠ usualMeter.exporterPath := by decide
  have fits : request.Fits := by decide +kernel
  refine ⟨elsewhere, fits, ?_⟩
  rcases attach_transparent built_catchAll attach_catchAll (by decide) elsewhere fits with
    same | ⟨off, -⟩
  · exact same
  · rcases off with longer | ⟨start, -, slashed⟩
    · exact absurd longer (by decide)
    · have last := congrArg List.getLast? slashed
      rw [List.getLast?_concat] at last
      exact absurd last (by decide)

/-- A path that is that of the exporter with a slash behind it is lost for the route for all
paths. -/
theorem attach_not_transparent : ¬ ∀ (m : RequestMeter) (accounts : Option Auth.Accounts)
    (t : Telemetry) (plain metered : Router) (request : Request), plain.Built →
    (m.attach accounts t plain).2 = .ok metered →
    m.exporterPath.toList.any Piece.isMark = false → request.path ≠ m.exporterPath →
    request.Fits → metered.Imitates plain request := by
  intro always
  let request : Request := { method := "GET", target := { path := "/metrics/" } }
  have same := always usualMeter none {} catchAll meteredCatchAll request built_catchAll
    attach_catchAll (by decide) (by decide) (by decide +kernel)
  have status := (same.answer {} 0 0).status
  revert status
  decide +kernel

end TrafficMeter.Routing
