import TrafficMeter.Routing.Bundle.Lemmas
import TrafficMeter.Routing.Clash
import TrafficMeter.Routing.MethodTable

/-!
# Routers

A router chooses a path's method table and the table a service.  A request whose path finds no
route goes to the fallback.

A router can be extended: by a route, by all routes of another router, and by a layer around
everything that is there.  A layer does not reach routes that are added later, and joining with a
router replaces a fallback that was not chosen by the other router's, with the layers it has.

Main statements: `match?_of_find?`, that the route that is found has a pattern that matches, and
`find?_of_plain`, that a route without captures is found at its own path.
-/

namespace TrafficMeter.Routing

open TrafficMeter.Http (Request)
open TrafficMeter.Traffic (Telemetry Response Body)

/-- Why a route cannot be added. -/
inductive RouteError where
  | emptyPath
  | relativePath
  | badPattern (path : String) (cause : PatternError)
  | overlap (verb : Verb) (path : String)
  | twoAny
  | twoFallbacks
deriving DecidableEq, Repr

/-- The text of a failure. -/
def RouteError.message : RouteError → String
  | emptyPath => "Paths must start with a `/`. Use \"/\" for root routes"
  | relativePath => "Paths must start with a `/`"
  | badPattern _ .tooManyCaptures => PatternError.tooManyCaptures.message
  | badPattern path cause => "Invalid route " ++ Text.quote path ++ ": " ++ cause.message
  | overlap verb path =>
      "Overlapping method route. Handler for `" ++ verb.word ++ " " ++ path ++ "` already exists"
  | twoAny => "Cannot merge two `MethodRouter`s that both have a fallback"
  | twoFallbacks => "Cannot merge two `Router`s that both have a fallback"

/-- A route. -/
structure Route where
  path : String
  pattern : List Piece
  table : MethodTable

/-- A router. -/
structure Router where
  routes : List Route := []
  fallback : Service := Service.ofHandler Handler.notFound
  /-- Whether the fallback was chosen. -/
  ownFallback : Bool := false

namespace Router

/-- Chooses the fallback. -/
def withFallback (r : Router) (h : Handler) : Router :=
  { r with fallback := Service.ofHandler h, ownFallback := true }

/-- Reads a pattern that can stand beside the patterns there are. -/
def readPattern (r : Router) (path : String) : Except PatternError (List Piece) := do
  let pattern ← Piece.read path.toList
  Clash.check (r.routes.map Route.pattern) pattern
  .ok pattern

/-- Joins a table to the table of a path that has one. -/
def mergeAt (path : String) (table : MethodTable) : List Route → Except RouteError (List Route)
  | [] => .ok []
  | route :: rest =>
      if route.path = path then
        match route.table.merge table with
        | .ok merged => .ok ({ route with table := merged } :: rest)
        | .error (.overlap verb) => .error (.overlap verb path)
        | .error .twoAny => .error .twoAny
      else do
        let others ← mergeAt path table rest
        .ok (route :: others)

/-- Adds a route; the tables of one path are joined. -/
def add (r : Router) (path : String) (table : MethodTable) : Except RouteError Router :=
  if path.isEmpty then .error .emptyPath
  else if !path.startsWith "/" then .error .relativePath
  else if r.routes.any fun route => route.path == path then do
    let routes ← mergeAt path table r.routes
    .ok { r with routes }
  else
    match r.readPattern path with
    | .ok pattern => .ok { r with routes := r.routes ++ [⟨path, pattern, table⟩] }
    | .error cause => .error (.badPattern path cause)

/-- Adds routes in turn. -/
def addAll (r : Router) : List (String × MethodTable) → Except RouteError Router
  | [] => .ok r
  | (path, table) :: rest => do
      let r ← r.add path table
      r.addAll rest

/-- Adds the routes of another router. -/
def merge (r other : Router) : Except RouteError Router := do
  let joined ← r.addAll (other.routes.map fun route => (route.path, route.table))
  if !r.ownFallback then
    .ok { joined with fallback := other.fallback, ownFallback := other.ownFallback }
  else if other.ownFallback then .error .twoFallbacks
  else .ok joined

/-- Puts a layer around everything that is there. -/
def wrap (r : Router) (layer : Layer) : Router :=
  { r with
    routes := r.routes.map fun route => { route with table := route.table.wrap layer }
    fallback := r.fallback.wrap layer }

/-- The routes with their patterns. -/
def bundle (r : Router) : Bundle Route := r.routes.map fun route => (route.pattern, route)

/-- The route for a path, with its captures. -/
def find? (r : Router) (path : String) : Option (Route × List (String × String)) :=
  (r.bundle.find? (Text.bytes path)).map fun (route, taken) =>
    (route, (Piece.captureNames route.pattern).zip
      (taken.map fun bs => (Text.ofBytes? bs).getD ""))

/-- What a router chooses for a request. -/
def select (r : Router) (request : Request) : Selection × List (String × String) :=
  match r.find? request.path with
  | some (route, captures) => (route.table.select request.method, captures)
  | none => ({ service := r.fallback }, [])

/-- Completes the head of a response, and drops the body if the table says so: the methods of the
path and the length, where known, are named unless the response names them itself. -/
def complete (t : Telemetry) (s : Selection) (response : Response) : Telemetry × Response :=
  let headers := match s.allow with
    | some methods => response.headers.addNew "allow" methods
    | none => response.headers
  let headers := match response.body.sizeHint.exact? with
    | some length =>
        headers.addNew "content-length" (Decimal.natural length)
    | none => headers
  if s.stripsBody then (t.close response.body, { response with headers, body := Body.empty })
  else (t, { response with headers })

/-- Answers a request; the error is the message of a crash. -/
def respond (r : Router) (t : Telemetry) (request : Request) (elapsed : Float) :
    Telemetry × Except String Response :=
  let (selection, captures) := r.select request
  match selection.service.respond t request captures elapsed with
  | (t, .error message) => (t, .error message)
  | (t, .ok response) =>
      let (t, response) := complete t selection response
      (t, .ok response)

/-- The route that is found has a pattern that matches. -/
theorem match?_of_find? {r : Router} {path : String} {route : Route}
    {captures : List (String × String)} (h : r.find? path = some (route, captures)) :
    route ∈ r.routes ∧ (Piece.match? route.pattern (Text.bytes path)).isSome = true := by
  simp only [find?, Option.map_eq_some_iff] at h
  obtain ⟨⟨found, taken⟩, hf, he⟩ := h
  obtain ⟨ps, hm, hp⟩ := Bundle.find?_sound hf
  simp only [bundle, List.mem_map, Prod.mk.injEq] at hm
  obtain ⟨other, ho, rfl, rfl⟩ := hm
  cases he
  exact ⟨ho, by simp [hp]⟩

/-- A route without captures is found at its own path. -/
theorem find?_of_plain {r : Router} {path : String} {route : Route} (h : route ∈ r.routes)
    (hp : route.pattern = Piece.plain (Text.bytes path)) :
    ∃ other ∈ r.routes, other.pattern = route.pattern ∧ r.find? path = some (other, []) := by
  have hm : (Piece.plain (Text.bytes path), route) ∈ r.bundle :=
    List.mem_map.2 ⟨route, h, by rw [hp]⟩
  obtain ⟨found, hf, hm⟩ := Bundle.find?_plain hm
  simp only [bundle, List.mem_map, Prod.mk.injEq] at hm
  obtain ⟨other, ho, hpo, rfl⟩ := hm
  exact ⟨other, ho, by rw [hpo, hp], by simp [find?, hf]⟩

end Router

end TrafficMeter.Routing
