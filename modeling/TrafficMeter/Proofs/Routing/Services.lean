import TrafficMeter.Proofs.Attempts
import TrafficMeter.Routing.RequestMeter

/-!
# The services of a router

Everything that can answer a request stands in a method table of a route or is the fallback.
Extending a router keeps the services it has, and a layer is put around each of them.

Main statement: `RequestMeter.services_attach`, that a meter is the outermost layer of every
service of the router it was attached to.
-/

namespace TrafficMeter.Routing

open TrafficMeter.Http (Request)
open TrafficMeter.Traffic (Telemetry)

namespace MethodTable

/-- The services of a table. -/
def services (m : MethodTable) : List Service := m.rest :: m.entries.map (·.2)

theorem find?_mem {m : MethodTable} {verb : Verb} {s : Service} (h : m.find? verb = some s) :
    s ∈ m.services := by
  obtain ⟨e, he, rfl⟩ := Option.map_eq_some_iff.mp h
  exact List.mem_cons_of_mem _ (List.mem_map_of_mem (List.mem_of_find?_eq_some he))

/-- A table chooses among its services. -/
theorem select_mem (m : MethodTable) (method : String) :
    (m.select method).service ∈ m.services := by
  unfold select
  simp only
  split
  · next s own =>
      obtain ⟨verb, -, hv⟩ := Option.bind_eq_some_iff.mp own
      split at hv
      · next found =>
          cases hv
          exact find?_mem found
      · split at hv
        · exact find?_mem hv
        · cases hv
  · exact List.mem_cons_self

theorem services_wrap (m : MethodTable) (layer : Layer) :
    (m.wrap layer).services = m.services.map (·.wrap layer) := by
  simp [services, wrap]

theorem services_merge {m other merged : MethodTable} (h : m.merge other = .ok merged)
    {s : Service} (hs : s ∈ merged.services) : s ∈ m.services ∨ s ∈ other.services := by
  have entries : ∀ {rest}, s ∈ rest :: (m.entries ++ other.entries).map (·.2) →
      (s = rest → s ∈ m.services ∨ s ∈ other.services) →
      s ∈ m.services ∨ s ∈ other.services := by
    intro rest member atRest
    rcases List.mem_cons.mp member with equal | member
    · exact atRest equal
    · rw [List.map_append] at member
      exact (List.mem_append.mp member).imp (List.mem_cons_of_mem _) (List.mem_cons_of_mem _)
  unfold merge at h
  split at h
  · cases h
  · simp only at h
    split at h
    · split at h
      · cases h
      · cases h
        exact entries hs fun e => .inl (e ▸ List.mem_cons_self)
    · cases h
      exact entries hs fun e => .inr (e ▸ List.mem_cons_self)

end MethodTable

namespace Router

/-- The services of a router. -/
def services (r : Router) : List Service := r.fallback :: r.routes.flatMap (·.table.services)

theorem find?_mem {r : Router} {path : String} {route : Route} {captures}
    (h : r.find? path = some (route, captures)) : route ∈ r.routes := (match?_of_find? h).1

/-- The services of a route are those of the router. -/
theorem services_route {r : Router} {route : Route} (member : route ∈ r.routes) {s : Service}
    (own : s ∈ route.table.services) : s ∈ r.services :=
  List.mem_cons_of_mem _ (List.mem_flatMap.mpr ⟨route, member, own⟩)

/-- A router chooses among its services. -/
theorem select_mem (r : Router) (request : Request) :
    (r.select request).1.service ∈ r.services := by
  unfold select
  split
  · next route captures found =>
      exact services_route (find?_mem found) (route.table.select_mem _)
  · exact List.mem_cons_self

theorem services_wrap (r : Router) (layer : Layer) :
    (r.wrap layer).services = r.services.map (·.wrap layer) := by
  simp only [services, wrap, List.map_cons, List.map_flatMap, List.flatMap_map,
    MethodTable.services_wrap]

/-- A table is joined to that of the first route with the path, if there is one. -/
theorem mergeAt_cases {path : String} {table : MethodTable} {routes merged : List Route}
    (h : mergeAt path table routes = .ok merged) :
    ((∀ route ∈ routes, route.path ≠ path) ∧ merged = routes) ∨
      ∃ before old joined after, routes = before ++ old :: after ∧ old.path = path ∧
        old.table.merge table = .ok joined ∧
        merged = before ++ { old with table := joined } :: after := by
  induction routes generalizing merged with
  | nil =>
      cases h
      exact .inl ⟨by simp, rfl⟩
  | cons route rest ih =>
      rw [mergeAt] at h
      split at h
      · next own =>
          split at h
          · next joined done =>
              cases h
              exact .inr ⟨[], route, joined, rest, rfl, own, done, rfl⟩
          · cases h
          · cases h
      · next other =>
          obtain ⟨others, ho, done⟩ := Attempt.bind_eq_ok_iff.mp h
          cases done
          rcases ih ho with ⟨none, rfl⟩ | ⟨before, old, joined, after, rfl, own, done, rfl⟩
          · exact .inl ⟨List.forall_mem_cons.mpr ⟨other, none⟩, rfl⟩
          · exact .inr ⟨route :: before, old, joined, after, rfl, own, done, rfl⟩

/-- What adding a route does: its table is joined to that of its path, or its pattern is read. -/
theorem add_cases {r added : Router} {path : String} {table : MethodTable}
    (h : r.add path table = .ok added) :
    (∃ before old joined after, r.routes = before ++ old :: after ∧ old.path = path ∧
        old.table.merge table = .ok joined ∧
        added = { r with routes := before ++ { old with table := joined } :: after }) ∨
      ∃ pattern, r.readPattern path = .ok pattern ∧ (∀ route ∈ r.routes, route.path ≠ path) ∧
        added = { r with routes := r.routes ++ [⟨path, pattern, table⟩] } := by
  unfold add at h
  split at h
  · cases h
  · split at h
    · cases h
    · split at h
      · next known =>
          obtain ⟨routes, merged, done⟩ := Attempt.bind_eq_ok_iff.mp h
          cases done
          rcases mergeAt_cases merged with
            ⟨none, -⟩ | ⟨before, old, joined, after, same, own, done, rfl⟩
          · obtain ⟨route, member, own⟩ := List.any_eq_true.mp known
            exact absurd (eq_of_beq own) (none route member)
          · exact .inl ⟨before, old, joined, after, same, own, done, rfl⟩
      · next unknown =>
          split at h
          · next pattern read =>
              cases h
              refine .inr ⟨pattern, read, ?_, rfl⟩
              simpa using unknown
          · cases h

/-- A new route brings no services but those of its table. -/
theorem services_add {r added : Router} {path : String} {table : MethodTable}
    (h : r.add path table = .ok added) {s : Service} (hs : s ∈ added.services) :
    s ∈ r.services ∨ s ∈ table.services := by
  rcases add_cases h with ⟨before, old, joined, after, same, -, merged, rfl⟩ | ⟨pattern, -, -, rfl⟩
  · rw [services, same]
    simp only [services, List.flatMap_append, List.flatMap_cons, List.mem_cons,
      List.mem_append] at hs ⊢
    rcases hs with atFallback | inFront | here | behind
    · exact .inl (.inl atFallback)
    · exact .inl (.inr (.inl inFront))
    · exact (MethodTable.services_merge merged here).imp_left fun own => .inr (.inr (.inl own))
    · exact .inl (.inr (.inr (.inr behind)))
  · rw [services, List.flatMap_append] at hs
    rcases List.mem_cons.mp hs with equal | member
    · exact .inl (equal ▸ List.mem_cons_self)
    · rcases List.mem_append.mp member with old | new
      · exact .inl (List.mem_cons_of_mem _ old)
      · exact .inr (by simpa using new)

/-- What adding a route keeps is kept by adding all of some. -/
theorem addAll_induction {P : Router → Prop} {routes : List Route}
    (step : ∀ {r added : Router} {route : Route}, route ∈ routes →
      r.add route.path route.table = .ok added → P r → P added) {r added : Router}
    (done : r.addAll (routes.map fun route => (route.path, route.table)) = .ok added) (h : P r) :
    P added := by
  induction routes generalizing r with
  | nil =>
      cases done
      exact h
  | cons route rest ih =>
      rw [List.map_cons, addAll] at done
      obtain ⟨next, first, rest⟩ := Attempt.bind_eq_ok_iff.mp done
      exact ih (fun member => step (List.mem_cons_of_mem _ member)) rest
        (step List.mem_cons_self first h)

/-- Joining another router adds its routes, and replaces a fallback that was not chosen. -/
theorem merge_cases {r other joined : Router} (done : r.merge other = .ok joined) :
    ∃ added, r.addAll (other.routes.map fun route => (route.path, route.table)) = .ok added ∧
      (r.ownFallback = true ∧ joined = added ∨
        r.ownFallback = false ∧ joined =
          { added with fallback := other.fallback, ownFallback := other.ownFallback }) := by
  rw [merge] at done
  obtain ⟨added, all, rest⟩ := Attempt.bind_eq_ok_iff.mp done
  refine ⟨added, all, ?_⟩
  cases own : r.ownFallback with
  | false =>
      rw [own] at rest
      cases rest
      exact .inr ⟨rfl, rfl⟩
  | true =>
      rw [own] at rest
      simp only [Bool.not_true, Bool.false_eq_true, if_false] at rest
      split at rest
      · cases rest
      · cases rest
        exact .inl ⟨rfl, rfl⟩

end Router

namespace RequestMeter

/-- When a meter can be attached, and to which router that leads. -/
theorem attach_eq_ok_iff {m : RequestMeter} {accounts : Option Auth.Accounts} {t : Telemetry}
    {r attached : Router} :
    (m.attach accounts t r).2 = .ok attached ↔
      validPath m.exporterPath = true ∧
        ∃ added, r.add m.exporterPath (.single .get (m.exporter accounts)) = .ok added ∧
          attached = added.wrap m.layer := by
  unfold attach checkPath
  by_cases valid : validPath m.exporterPath = true
  · rw [if_pos valid]
    simp only [mount, valid, true_and, Attempt.mapError_eq_ok_iff, Attempt.bind_eq_ok_iff,
      Except.ok.injEq]
    exact exists_congr fun added => and_congr_right fun _ => eq_comm
  · rw [if_neg valid]
    simp [valid]

theorem registries_attach (m : RequestMeter) (accounts : Option Auth.Accounts) (t : Telemetry)
    (r : Router) : (m.attach accounts t r).1.registries = t.registries := by
  unfold attach
  split <;> rfl

theorem recorder_attach (m : RequestMeter) (accounts : Option Auth.Accounts) (t : Telemetry)
    (r : Router) : (m.attach accounts t r).1.recorder = t.recorder := by
  unfold attach
  split <;> rfl

@[simp] theorem core_exporter (m : RequestMeter) (accounts : Option Auth.Accounts) :
    (m.exporter accounts).core = .exporter m.collectors.registry := by
  cases accounts <;> rfl

/-- An exporter is not measured by itself. -/
theorem meter_not_mem_exporter {m : RequestMeter} {accounts : Option Auth.Accounts}
    {other : Meter} : .meter other ∉ (m.exporter accounts).layers := by
  cases accounts <;> simp [exporter, Service.wrap]

/-- The meter is the outermost layer of every service. -/
theorem services_attach {m : RequestMeter} {accounts : Option Auth.Accounts} {t : Telemetry}
    {r attached : Router} (h : (m.attach accounts t r).2 = .ok attached) {s : Service}
    (hs : s ∈ attached.services) :
    ∃ inner : Service, s = inner.wrap m.layer ∧
      (inner ∈ r.services ∨ inner = m.exporter accounts ∨
        inner = Service.ofHandler Handler.methodNotAllowed) := by
  obtain ⟨-, added, hadd, rfl⟩ := attach_eq_ok_iff.mp h
  rw [Router.services_wrap] at hs
  obtain ⟨inner, hi, rfl⟩ := List.mem_map.mp hs
  refine ⟨inner, rfl, ?_⟩
  rcases Router.services_add hadd hi with old | new
  · exact .inl old
  · simp only [MethodTable.services, MethodTable.single, List.map_cons, List.map_nil,
      List.mem_cons, List.not_mem_nil, or_false] at new
    exact .inr new.symm

end RequestMeter

end TrafficMeter.Routing
