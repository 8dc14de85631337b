import TrafficMeter.Proofs.Attempts
import TrafficMeter.Proofs.Traffic.Places
import TrafficMeter.Routing.Service

/-!
# What an answer does

To the registry at a place an answer does what its core does, or nothing if a gate refuses or a
meter cannot size the request. Whatever is measured later is measured by one of the meters that the
request passed on its way.

Main statements: `registries_respondThrough`, what becomes of each registry, and
`mem_close_respondThrough`, whose requests a response holds.
-/

namespace TrafficMeter.Routing

open TrafficMeter.Metric (Registry)
open TrafficMeter.Http (Request)
open TrafficMeter.Traffic (Telemetry RegistryId Response Body)

/-- What a core makes of the registry at a place. -/
def Core.effect (recorder : Option RegistryId) (request : Request)
    (captures : List (String × String)) (place : RegistryId) : Core → Registry → Registry
  | handler h, r => if recorder = some place then r.applyAll (h request captures).writes else r
  | exporter id, r => if id = place then r.tally else r

/-- Whether all layers let a request through. -/
def opens (request : Request) (layers : List Layer) : Bool :=
  layers.all fun
    | .gate accounts => (accounts.authorize request.headers).isSome
    | .meter m => request.path = m.exporterPath || request.approximateSize.isOk

theorem opens_cons_gate (request : Request) (accounts : Auth.Accounts) (inner : List Layer) :
    opens request (.gate accounts :: inner) =
      ((accounts.authorize request.headers).isSome && opens request inner) :=
  rfl

theorem opens_cons_meter (request : Request) (m : Meter) (inner : List Layer) :
    opens request (.meter m :: inner) =
      ((request.path = m.exporterPath || request.approximateSize.isOk) && opens request inner) :=
  rfl

/-- What a service makes of the registry at a place. -/
def Service.effect (s : Service) (recorder : Option RegistryId) (request : Request)
    (captures : List (String × String)) (place : RegistryId) (r : Registry) : Registry :=
  if opens request s.layers then s.core.effect recorder request captures place r else r

variable {core : Core} {request : Request} {captures : List (String × String)} {elapsed : Float}
  {layers : List Layer} {t : Telemetry}

theorem recorder_respondThrough :
    (respondThrough core request captures elapsed layers t).1.recorder = t.recorder := by
  induction layers generalizing t with
  | nil =>
      cases core with
      | handler h => exact t.recorder_emitAll _
      | exporter id => rfl
  | cons layer inner ih =>
      cases layer with
      | gate accounts =>
          rw [respondThrough]
          split
          · exact ih
          · rfl
      | meter m =>
          rw [respondThrough]
          split
          · exact ih
          · split
            · exact ih
            · rfl

theorem registries_respondThrough (place : RegistryId) :
    (respondThrough core request captures elapsed layers t).1.registries[place]? =
      (t.registries[place]?).map fun r =>
        if opens request layers then core.effect t.recorder request captures place r else r := by
  induction layers generalizing t with
  | nil =>
      cases core with
      | handler h => exact t.registries_emitAll place _
      | exporter id => exact t.registries_tally place id
  | cons layer inner ih =>
      cases layer with
      | gate accounts =>
          rw [respondThrough]
          split
          · next user known =>
              refine ih.trans ?_
              simp only [opens, List.all_cons, known, Option.isSome_some, Bool.true_and]
              rfl
          · next refused => simp [opens, refused, Telemetry.note]
      | meter m =>
          by_cases own : request.path = m.exporterPath
          · rw [respondThrough_meter_own _ _ _ _ _ own, opens_cons_meter, decide_eq_true own]
            exact ih
          · cases sized : request.approximateSize with
            | ok size =>
                rw [respondThrough_meter_sized _ _ _ _ _ own sized, opens_cons_meter, sized,
                  decide_eq_false own]
                exact ih
            | error message =>
                rw [respondThrough_meter_unsized _ _ _ _ _ own sized, opens_cons_meter, sized,
                  decide_eq_false own]
                exact Option.map_id'.symm

/-- A response that a meter lets out answers a request that has a size, and is measured. -/
theorem measured_of_answered {m : Meter} (other : request.path ≠ m.exporterPath)
    {response : Response}
    (answered : (respondThrough core request captures elapsed (.meter m :: layers) t).2 =
      .ok response) :
    ∃ size plain, request.approximateSize = .ok size ∧
      (respondThrough core request captures elapsed layers t).2 = .ok plain ∧
      response = m.measure request elapsed size plain := by
  cases sized : request.approximateSize with
  | ok size =>
      rw [respondThrough_meter_sized _ _ _ _ _ other sized] at answered
      obtain ⟨plain, inside, rfl⟩ := Attempt.map_eq_ok_iff.mp answered
      exact ⟨size, plain, rfl, inside, rfl⟩
  | error message =>
      rw [respondThrough_meter_unsized _ _ _ _ _ other sized] at answered
      cases answered

/-- The requests that a response holds are measured by meters that do not leave it alone. -/
theorem mem_close_respondThrough {response : Response}
    (answered : (respondThrough core request captures elapsed layers t).2 = .ok response) :
    ∀ q ∈ response.body.close, ∃ m, .meter m ∈ layers ∧ request.path ≠ m.exporterPath ∧
      q.collectors = m.collectors := by
  induction layers generalizing t response with
  | nil =>
      cases core with
      | handler h =>
          obtain ⟨reply, -, rfl⟩ := Attempt.map_eq_ok_iff.mp answered
          intro q none
          cases none
      | exporter id =>
          cases answered
          intro q none
          cases none
  | cons layer inner ih =>
      have deeper : ∀ {response : Response} {t : Telemetry},
          (respondThrough core request captures elapsed inner t).2 = .ok response →
          ∀ q ∈ response.body.close, ∃ m, .meter m ∈ layer :: inner ∧
            request.path ≠ m.exporterPath ∧ q.collectors = m.collectors := by
        intro response t answered q member
        obtain ⟨m, inside, measured⟩ := ih answered q member
        exact ⟨m, List.mem_cons_of_mem layer inside, measured⟩
      cases layer with
      | gate accounts =>
          rw [respondThrough] at answered
          split at answered
          · exact deeper answered
          · cases answered
            intro q none
            cases none
      | meter m =>
          by_cases own : request.path = m.exporterPath
          · rw [respondThrough_meter_own _ _ _ _ _ own] at answered
            exact deeper answered
          · obtain ⟨size, plain, -, inside, rfl⟩ := measured_of_answered own answered
            intro q member
            rcases List.mem_append.mp member with here | member
            · cases List.mem_singleton.mp here
              exact ⟨m, List.mem_cons_self, own, rfl⟩
            · exact deeper inside q member

end TrafficMeter.Routing
