import TrafficMeter.Routing.Service

/-!
# Method tables

A path answers some methods with services of their own and all others with one more service.  A
service for GET also answers HEAD, and the answer to HEAD from a service for GET or HEAD has no
body.  CONNECT asks for a tunnel and is never answered by a route: a service that is added for it
answers OPTIONS.  An answer of the remaining service names the methods that services were added
for, unless the service is meant for any method.

Main statements: `select_of_verb`, that the service of a method is chosen for it, and
`find?_connect`, that none is chosen for CONNECT.
-/

namespace TrafficMeter.Routing

/-- The methods that can have a service of their own. -/
inductive Verb where
  | connect
  | get
  | head
  | delete
  | options
  | patch
  | post
  | put
  | trace
deriving DecidableEq, Repr

/-- The word for a method. -/
def Verb.word : Verb → String
  | connect => "CONNECT"
  | get => "GET"
  | head => "HEAD"
  | delete => "DELETE"
  | options => "OPTIONS"
  | patch => "PATCH"
  | post => "POST"
  | put => "PUT"
  | trace => "TRACE"

/-- All methods that can have a service, in the order in which overlaps are looked for. -/
def Verb.all : List Verb :=
  [.connect, .get, .head, .delete, .options, .patch, .post, .put, .trace]

/-- The method with a word. -/
def Verb.ofWord? (word : String) : Option Verb := Verb.all.find? fun v => v.word == word

/-- The method that a service answers if it was added for this one. -/
def Verb.answered : Verb → Verb
  | connect => options
  | verb => verb

/-- The services of a path. -/
structure MethodTable where
  /-- The services for single methods, in the order in which they were added. -/
  entries : List (Verb × Service) := []
  /-- The service for the other methods. -/
  rest : Service := Service.ofHandler Handler.methodNotAllowed
  /-- Whether the remaining service is meant for any method. -/
  restIsAny : Bool := false

/-- Why two tables cannot become one. -/
inductive TableError where
  | overlap (verb : Verb)
  | twoAny
deriving DecidableEq, Repr

/-- What a table chooses for a method. -/
structure Selection where
  service : Service
  /-- Whether the body of the answer is dropped. -/
  stripsBody : Bool := false
  /-- The methods to name in the answer. -/
  allow : Option String := none

namespace MethodTable

/-- A table with one service for one method. -/
def single (verb : Verb) (s : Service) : MethodTable := { entries := [(verb, s)] }

/-- A table with one service for any method. -/
def any (s : Service) : MethodTable := { rest := s, restIsAny := true }

/-- The service of a method. -/
def find? (m : MethodTable) (verb : Verb) : Option Service :=
  (m.entries.find? fun e => e.1.answered = verb).map (·.2)

/-- The methods that a table names; GET stands for HEAD as well. -/
def allow (m : MethodTable) : String :=
  ",".intercalate (m.entries.map fun e => if e.1 = .get then "GET,HEAD" else e.1.word)

/-- Chooses the service for a method. -/
def select (m : MethodTable) (method : String) : Selection :=
  let own := (Verb.ofWord? method).bind fun verb =>
    match m.find? verb with
    | some s => some s
    | none => if verb = .head then m.find? .get else none
  match own with
  | some service => { service, stripsBody := method == "HEAD" }
  | none => { service := m.rest, allow := if m.restIsAny then none else some m.allow }

/-- Puts a layer around every service. -/
def wrap (m : MethodTable) (layer : Layer) : MethodTable :=
  { m with
    entries := m.entries.map fun e => (e.1, e.2.wrap layer)
    rest := m.rest.wrap layer }

/-- Joins two tables.  If neither is meant for any method, the second one's remaining service is
kept. -/
def merge (m other : MethodTable) : Except TableError MethodTable :=
  match Verb.all.find? fun v => (m.find? v).isSome && (other.find? v).isSome with
  | some verb => .error (.overlap verb)
  | none =>
      let entries := m.entries ++ other.entries
      if m.restIsAny then
        if other.restIsAny then .error .twoAny
        else .ok { entries, rest := m.rest, restIsAny := true }
      else .ok { entries, rest := other.rest, restIsAny := other.restIsAny }

/-- No service answers CONNECT. -/
theorem find?_connect (m : MethodTable) : m.find? .connect = none := by
  have h : ∀ verb : Verb, verb.answered ≠ .connect := by intro verb; cases verb <;> decide
  simp [find?, h]

/-- The service of a method is chosen for it. -/
theorem select_of_verb {m : MethodTable} {verb : Verb} {s : Service} (h : m.find? verb = some s) :
    (m.select verb.word).service = s := by
  have hw : Verb.ofWord? verb.word = some verb := by cases verb <;> decide
  simp [select, hw, h]

end MethodTable

end TrafficMeter.Routing
