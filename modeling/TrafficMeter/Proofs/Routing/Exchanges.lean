import Mathlib.Logic.Relation
import TrafficMeter.Proofs.Traffic.Owed
import TrafficMeter.Proofs.Routing.Services

/-!
# Exchanges

A server has many exchanges under way at once: requests wait for their handlers, and responses are
read piece by piece. An action concerns one exchange, and actions of different exchanges follow
each other in any order. The rest of the process acts in between.
-/

namespace TrafficMeter.Routing

open TrafficMeter.Http (Request)
open TrafficMeter.Traffic (Telemetry Collectors Observation Body)

/-- What a client got of a response. -/
structure Answer where
  status : Nat
  /-- The time from the request's arrival until its response was ready. -/
  elapsed : Float
  /-- The bytes of data that came before the body's end. -/
  delivered : Nat := 0

/-- What there is to observe of a response. Whatever was measured has a request of a size, which is
the word that its bytes are. -/
def Answer.observation (a : Answer) (request : Request) : Observation :=
  { status := a.status
    method := request.method
    path := request.path
    elapsed := a.elapsed
    requestSize := UInt64.ofNat request.bytes
    responseSize := UInt64.ofNat a.delivered }

/-- How far an exchange has come. -/
inductive Stage where
  /-- The handler has not returned. -/
  | waiting
  /-- The handler crashed. -/
  | crashed
  /-- The response can be read on; its body may have ended already. -/
  | opened (answer : Answer) (body : Body) (ended : Bool)
  /-- The body was dropped. -/
  | closed (answer : Answer)

/-- A request with what became of it. -/
structure Exchange where
  id : Nat
  request : Request
  stage : Stage := .waiting

namespace Exchange

/-- The handler returns or crashes. A body that the router drops itself, as that of an answer to
HEAD, is dropped unread. -/
def answer (r : Router) (elapsed : Float) (t : Telemetry) (x : Exchange) : Telemetry × Exchange :=
  match x.stage with
  | .waiting =>
      match r.respond t x.request elapsed with
      | (t, .error _) => (t, { x with stage := .crashed })
      | (t, .ok response) =>
          let answer := { status := response.status, elapsed }
          if (r.select x.request).1.stripsBody then (t, { x with stage := .closed answer })
          else (t, { x with stage := .opened answer response.body false })
  | _ => (t, x)

/-- The body is asked for its next piece. -/
def poll (t : Telemetry) (x : Exchange) : Telemetry × Exchange :=
  match x.stage with
  | .opened answer body ended =>
      let (t, p, body) := t.poll body
      let delivered := if ended then answer.delivered else answer.delivered + p.dataBytes
      (t, { x with stage := .opened { answer with delivered } body (ended || p = .finished) })
  | _ => (t, x)

/-- The body is dropped. -/
def drop (t : Telemetry) (x : Exchange) : Telemetry × Exchange :=
  match x.stage with
  | .opened answer body _ => (t.close body, { x with stage := .closed answer })
  | _ => (t, x)

/-- The response whose body has ended or was dropped. -/
def finished? (x : Exchange) : Option Answer :=
  match x.stage with
  | .opened answer _ true | .closed answer => some answer
  | _ => none

/-- What must have been observed of an exchange by a meter whose exporter is at a path. -/
def finished (path : String) (x : Exchange) : List Observation :=
  if x.request.path = path then [] else (x.finished?.map (·.observation x.request)).toList

end Exchange

/-- A process with its exchanges, in the order of their arrival. -/
structure World where
  telemetry : Telemetry
  exchanges : List Exchange := []

/-- What happens to one exchange. -/
inductive Action where
  | arrive (id : Nat) (request : Request)
  | answer (id : Nat) (elapsed : Float)
  | poll (id : Nat)
  | drop (id : Nat)

/-- Changes the first exchange of an id. -/
def changeFirst (id : Nat) (change : Telemetry → Exchange → Telemetry × Exchange)
    (t : Telemetry) : List Exchange → Telemetry × List Exchange
  | [] => (t, [])
  | x :: rest =>
      if x.id = id then
        let (t, x) := change t x
        (t, x :: rest)
      else
        let (t, rest) := changeFirst id change t rest
        (t, x :: rest)

namespace World

/-- Changes an exchange of a process. -/
def change (w : World) (id : Nat) (f : Telemetry → Exchange → Telemetry × Exchange) : World :=
  let (telemetry, exchanges) := changeFirst id f w.telemetry w.exchanges
  { telemetry, exchanges }

/-- Carries out an action with a router. -/
def act (r : Router) (w : World) : Action → World
  | .arrive id request => { w with exchanges := w.exchanges ++ [{ id, request }] }
  | .answer id elapsed => w.change id (Exchange.answer r elapsed)
  | .poll id => w.change id Exchange.poll
  | .drop id => w.change id Exchange.drop

/-- Carries out actions one after the other. -/
def actAll (r : Router) (w : World) (actions : List Action) : World := actions.foldl (act r) w

/-- What becomes of a process that starts with nothing under way. -/
def after (r : Router) (start : Telemetry) (actions : List Action) : World :=
  actAll r { telemetry := start } actions

/-- What must have been observed by a meter whose exporter is at a path. -/
def finished (path : String) (w : World) : List Observation :=
  w.exchanges.flatMap (·.finished path)

end World

/-- The handler that is chosen for a request writes nothing to the families of `c`. -/
def Router.Spares (r : Router) (c : Collectors) (request : Request) : Prop :=
  ∀ h, (r.select request).1.service.core = .handler h →
    ∀ w ∈ (h request (r.select request).2).writes, c.SparedBy w

/-- If the process records to the registry of `c`, the handler that an action runs to its end
writes nothing to the families of `c`. -/
def World.Quiet (c : Collectors) (r : Router) (w : World) : Action → Prop
  | .answer id _ => w.telemetry.recorder = some c.registry →
      ∀ x ∈ w.exchanges, x.id = id → r.Spares c x.request
  | .arrive _ _ | .poll _ | .drop _ => True

/-- One step of a process whose router is `r`: an action on an exchange, or whatever else, as long
as the families of `c` are left alone. -/
inductive Step (c : Collectors) (r : Router) (w : World) : World → Prop
  | act (a : Action) (quiet : w.Quiet c r a) : Step c r w (w.act r a)
  | elsewhere (t : Telemetry) (spared : c.readings? t = c.readings? w.telemetry) :
      Step c r w { w with telemetry := t }

/-- Any number of steps. -/
abbrev Run (c : Collectors) (r : Router) : World → World → Prop := Relation.ReflTransGen (Step c r)

/-- Where an id occurs first. -/
theorem exists_first (id : Nat) (xs : List Exchange) :
    (∀ x ∈ xs, x.id ≠ id) ∨ ∃ before x after, xs = before ++ x :: after ∧
      (∀ y ∈ before, y.id ≠ id) ∧ x.id = id := by
  induction xs with
  | nil => exact .inl (by simp)
  | cons x rest ih =>
      by_cases own : x.id = id
      · exact .inr ⟨[], x, rest, rfl, by simp, own⟩
      · rcases ih with none | ⟨before, y, after, rfl, others, found⟩
        · exact .inl (List.forall_mem_cons.mpr ⟨own, none⟩)
        · exact .inr ⟨x :: before, y, after, rfl, List.forall_mem_cons.mpr ⟨own, others⟩, found⟩

section

variable {id : Nat} {f : Telemetry → Exchange → Telemetry × Exchange} {t : Telemetry}

theorem changeFirst_of_none {xs : List Exchange} (none : ∀ x ∈ xs, x.id ≠ id) :
    changeFirst id f t xs = (t, xs) := by
  induction xs with
  | nil => rfl
  | cons x rest ih =>
      obtain ⟨other, none⟩ := List.forall_mem_cons.mp none
      rw [changeFirst, if_neg other, ih none]

theorem changeFirst_of_first {before : List Exchange} {x : Exchange} (after : List Exchange)
    (others : ∀ y ∈ before, y.id ≠ id) (own : x.id = id) :
    changeFirst id f t (before ++ x :: after) = ((f t x).1, before ++ (f t x).2 :: after) := by
  induction before with
  | nil => rw [List.nil_append, changeFirst, if_pos own, List.nil_append]
  | cons y before ih =>
      obtain ⟨other, others⟩ := List.forall_mem_cons.mp others
      rw [List.cons_append, changeFirst, if_neg other, ih others, List.cons_append]

end

/-- An action changes one exchange at most. -/
theorem changeFirst_cases (id : Nat) (f : Telemetry → Exchange → Telemetry × Exchange)
    (t : Telemetry) (xs : List Exchange) :
    changeFirst id f t xs = (t, xs) ∨
      ∃ before x after, xs = before ++ x :: after ∧ x.id = id ∧
        changeFirst id f t xs = ((f t x).1, before ++ (f t x).2 :: after) := by
  rcases exists_first id xs with none | ⟨before, x, after, rfl, others, own⟩
  · exact .inl (changeFirst_of_none none)
  · exact .inr ⟨before, x, after, rfl, own, changeFirst_of_first after others own⟩

/-- Changing an exchange leaves its request as it is. -/
def KeepsRequest (f : Telemetry → Exchange → Telemetry × Exchange) : Prop :=
  ∀ t x, (f t x).2.id = x.id ∧ (f t x).2.request = x.request

theorem keepsRequest_answer (r : Router) (elapsed : Float) :
    KeepsRequest (Exchange.answer r elapsed) := by
  intro t x
  rw [Exchange.answer]
  split
  · split
    · exact ⟨rfl, rfl⟩
    · split <;> exact ⟨rfl, rfl⟩
  · exact ⟨rfl, rfl⟩

theorem keepsRequest_poll : KeepsRequest Exchange.poll := by
  intro t x
  rw [Exchange.poll]
  split <;> exact ⟨rfl, rfl⟩

theorem keepsRequest_drop : KeepsRequest Exchange.drop := by
  intro t x
  rw [Exchange.drop]
  split <;> exact ⟨rfl, rfl⟩

end TrafficMeter.Routing
