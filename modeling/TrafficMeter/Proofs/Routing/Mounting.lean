import TrafficMeter.Proofs.Routing.OwnPaths

/-!
# Where a request goes after mounting

Mounting joins the exporter to the services of its path and changes no other path. Requests that
are sent to the exporter's path go to the exporter, to a service that had this path before, or are
told that the method is not allowed; all others go where they went before.

Main statements: `RequestMeter.select_attach`, where any request goes, and
`RequestMeter.select_exporter`, which ones are sure to go to the exporter.
-/

namespace TrafficMeter.Routing

open TrafficMeter.Http (Request)
open TrafficMeter.Traffic (Telemetry)

namespace MethodTable

theorem find?_wrap (m : MethodTable) (layer : Layer) (verb : Verb) :
    (m.wrap layer).find? verb = (m.find? verb).map (·.wrap layer) := by
  rw [find?, find?, wrap, List.find?_map, Option.map_map, Option.map_map]
  rfl

@[simp] theorem rest_wrap (m : MethodTable) (layer : Layer) :
    (m.wrap layer).rest = m.rest.wrap layer := rfl

@[simp] theorem restIsAny_wrap (m : MethodTable) (layer : Layer) :
    (m.wrap layer).restIsAny = m.restIsAny := rfl

@[simp] theorem allow_wrap (m : MethodTable) (layer : Layer) :
    (m.wrap layer).allow = m.allow := by
  simp [allow, wrap, List.map_map, Function.comp_def]

theorem select_wrap (m : MethodTable) (layer : Layer) (method : String) :
    (m.wrap layer).select method =
      { m.select method with service := (m.select method).service.wrap layer } := by
  cases word : Verb.ofWord? method with
  | none => simp [select, word]
  | some verb =>
      cases own : m.find? verb with
      | some s => simp [select, word, find?_wrap, own]
      | none =>
          by_cases head : verb = .head
          · subst head
            cases get : m.find? .get <;> simp [select, word, find?_wrap, own, get]
          · simp [select, word, find?_wrap, own, head]

theorem find?_single (verb : Verb) (s : Service) (other : Verb) :
    (single verb s).find? other = if verb.answered = other then some s else none := by
  by_cases own : verb.answered = other <;> simp [find?, single, own]

/-- What a table chooses is the service of the method, that of GET for HEAD, or the remaining
one. -/
theorem select_cases (m : MethodTable) (method : String) :
    (∃ verb, m.find? verb = some (m.select method).service ∧
      (method = verb.word ∨ method = "HEAD" ∧ verb = .get)) ∨
      (m.select method).service = m.rest := by
  unfold select
  simp only
  split
  · next s own =>
      obtain ⟨verb, word, chosen⟩ := Option.bind_eq_some_iff.mp own
      have named : verb.word = method :=
        eq_of_beq (List.find?_some (p := fun v : Verb => v.word == method) word)
      split at chosen
      · next found =>
          cases chosen
          exact .inl ⟨verb, found, .inl named.symm⟩
      · split at chosen
        · next head =>
            refine .inl ⟨.get, chosen, .inr ⟨?_, rfl⟩⟩
            rw [← named, head]
            rfl
        · cases chosen
  · exact .inr rfl

/-- The service of GET is chosen for HEAD if there is no other for it. -/
theorem select_head {m : MethodTable} {s : Service} (get : m.find? .get = some s)
    (none : m.find? .head = none) :
    m.select "HEAD" = { service := s, stripsBody := true } := by
  have word : Verb.ofWord? "HEAD" = some .head := by decide
  simp [select, word, none, get]

theorem select_get {m : MethodTable} {s : Service} (get : m.find? .get = some s) :
    m.select "GET" = { service := s } := by
  have word : Verb.ofWord? "GET" = some .get := by decide
  simp [select, word, get]

/-- Two tables are joined only if no verb has a service in both. -/
theorem find?_merge {m other merged : MethodTable} (h : m.merge other = .ok merged) (verb : Verb) :
    merged.find? verb = (m.find? verb).or (other.find? verb) ∧
      (m.find? verb = none ∨ other.find? verb = none) := by
  have entries : merged.entries = m.entries ++ other.entries ∧
      Verb.all.find? (fun v => (m.find? v).isSome && (other.find? v).isSome) = none := by
    unfold merge at h
    split at h
    · cases h
    · next apart =>
        simp only at h
        split at h
        · split at h
          · cases h
          · cases h
            exact ⟨rfl, apart⟩
        · cases h
          exact ⟨rfl, apart⟩
  constructor
  · rw [find?, entries.1, List.find?_append, Option.map_or]
    rfl
  · have listed : verb ∈ Verb.all := by cases verb <;> decide
    have apart := List.find?_eq_none.mp entries.2 verb listed
    cases own : m.find? verb with
    | none => exact .inl rfl
    | some s => exact .inr (by simpa [own] using apart)

theorem rest_merge {m other merged : MethodTable} (h : m.merge other = .ok merged) :
    merged.rest = m.rest ∨ merged.rest = other.rest := by
  unfold merge at h
  split at h
  · cases h
  · simp only at h
    split at h
    · split at h
      · cases h
      · cases h
        exact .inl rfl
    · cases h
      exact .inr rfl

end MethodTable

namespace Router

/-- A route that has the table, or that of an earlier route joined to it. -/
def Joins (r : Router) (path : String) (table : MethodTable) (route : Route) : Prop :=
  route.path = path ∧
    (route.table = table ∧ (∀ old ∈ r.routes, old.path ≠ path) ∨
      ∃ old ∈ r.routes, old.path = path ∧ old.table.merge table = .ok route.table)

theorem mem_add {r added : Router} {path : String} {table : MethodTable}
    (done : r.add path table = .ok added) {route : Route} (member : route ∈ added.routes) :
    route ∈ r.routes ∨ r.Joins path table route := by
  rcases add_cases done with ⟨before, old, joined, after, same, own, merged, rfl⟩ |
    ⟨pattern, -, new, rfl⟩
  · rw [same]
    rcases List.mem_append.mp member with before | rest
    · exact .inl (List.mem_append_left _ before)
    · rcases List.mem_cons.mp rest with rfl | after
      · exact .inr ⟨own, .inr ⟨old, by simp [same], own, merged⟩⟩
      · exact .inl (List.mem_append_right _ (List.mem_cons_of_mem _ after))
  · rcases List.mem_append.mp member with old | own
    · exact .inl old
    · rw [List.mem_singleton] at own
      subst own
      exact .inr ⟨rfl, .inl ⟨rfl, new⟩⟩

theorem exists_joins {r added : Router} {path : String} {table : MethodTable}
    (done : r.add path table = .ok added) : ∃ route ∈ added.routes, r.Joins path table route := by
  rcases add_cases done with ⟨before, old, joined, after, same, own, merged, rfl⟩ |
    ⟨pattern, -, new, rfl⟩
  · exact ⟨{ old with table := joined }, by simp, own, .inr ⟨old, by simp [same], own, merged⟩⟩
  · exact ⟨⟨path, pattern, table⟩, by simp, rfl, .inl ⟨rfl, new⟩⟩

theorem fallback_add {r added : Router} {path : String} {table : MethodTable}
    (done : r.add path table = .ok added) : added.fallback = r.fallback := by
  rcases add_cases done with ⟨before, old, joined, after, -, -, -, rfl⟩ | ⟨pattern, -, -, rfl⟩
  · rfl
  · rfl

variable {r : Router} {path : String} {s : Service} {route : Route}

theorem Joins.find?_get (h : r.Joins path (.single .get s) route) :
    route.table.find? .get = some s := by
  have single : (MethodTable.single .get s).find? .get = some s := by
    rw [MethodTable.find?_single, if_pos (show Verb.get.answered = .get from rfl)]
  obtain ⟨-, ⟨own, -⟩ | ⟨old, -, -, merged⟩⟩ := h
  · rw [own]
    exact single
  · obtain ⟨both, none | none⟩ := MethodTable.find?_merge merged .get
    · rw [both, none, single]
      rfl
    · rw [single] at none
      cases none

theorem Joins.find?_head (h : r.Joins path (.single .get s) route)
    (headless : ∀ old ∈ r.routes, old.path = path → old.table.find? .head = none) :
    route.table.find? .head = none := by
  have single : (MethodTable.single .get s).find? .head = none := by
    rw [MethodTable.find?_single, if_neg (by decide)]
  obtain ⟨-, ⟨own, -⟩ | ⟨old, member, there, merged⟩⟩ := h
  · rw [own]
    exact single
  · rw [(MethodTable.find?_merge merged .head).1, headless old member there, single]
    rfl

/-- What is found in the joined table is the service that joined, for GET, or was there before. -/
theorem Joins.find?_cases (h : r.Joins path (.single .get s) route) {verb : Verb}
    {chosen : Service} (found : route.table.find? verb = some chosen) :
    verb = .get ∧ chosen = s ∨ ∃ old ∈ r.routes, old.path = path ∧ chosen ∈ old.table.services := by
  have single : ∀ {chosen}, (MethodTable.single .get s).find? verb = some chosen →
      verb = .get ∧ chosen = s := by
    intro chosen found
    rw [MethodTable.find?_single] at found
    split at found
    · next own =>
        cases found
        exact ⟨own.symm, rfl⟩
    · cases found
  obtain ⟨-, ⟨own, -⟩ | ⟨old, member, there, merged⟩⟩ := h
  · rw [own] at found
    exact .inl (single found)
  · rw [(MethodTable.find?_merge merged verb).1] at found
    rcases Option.or_eq_some_iff.mp found with before | ⟨-, joined⟩
    · exact .inr ⟨old, member, there, MethodTable.find?_mem before⟩
    · exact .inl (single joined)

/-- The service that joins the others of its path is chosen for GET and HEAD only. -/
theorem Joins.select_cases (h : r.Joins path (.single .get s) route) (method : String) :
    (route.table.select method).service = s ∧ (method = "GET" ∨ method = "HEAD") ∨
      (route.table.select method).service = Service.ofHandler Handler.methodNotAllowed ∨
      ∃ old ∈ r.routes, old.path = path ∧
        (route.table.select method).service ∈ old.table.services := by
  rcases route.table.select_cases method with ⟨verb, chosen, word⟩ | rest
  · rcases h.find?_cases chosen with ⟨rfl, joined⟩ | old
    · exact .inl ⟨joined, word.imp id And.left⟩
    · exact .inr (.inr old)
  · rw [rest]
    obtain ⟨-, ⟨own, -⟩ | ⟨old, member, there, merged⟩⟩ := h
    · rw [own]
      exact .inr (.inl rfl)
    · rcases MethodTable.rest_merge merged with same | same
      · refine .inr (.inr ⟨old, member, there, ?_⟩)
        rw [same]
        exact List.mem_cons_self
      · exact .inr (.inl same)

end Router

namespace RequestMeter

variable {m : RequestMeter} {accounts : Option Auth.Accounts} {t : Telemetry}
  {plain metered : Router}

theorem built_attach (built : plain.Built) (done : (m.attach accounts t plain).2 = .ok metered) :
    metered.Built := by
  obtain ⟨-, added, hadd, rfl⟩ := attach_eq_ok_iff.mp done
  exact (built.add hadd).wrap m.layer

/-- Where the metered router sends a request. -/
theorem select_attach (done : (m.attach accounts t plain).2 = .ok metered) (request : Request) :
    ∃ inner : Service, (metered.select request).1.service = inner.wrap m.layer ∧
      (inner ∈ plain.services ∧ ¬ metered.Dispatches m.exporterPath request.path ∨
        metered.Dispatches m.exporterPath request.path ∧
          (inner = m.exporter accounts ∧ (request.method = "GET" ∨ request.method = "HEAD") ∨
            inner = Service.ofHandler Handler.methodNotAllowed ∨
            ∃ old ∈ plain.routes, old.path = m.exporterPath ∧ inner ∈ old.table.services)) := by
  obtain ⟨-, added, hadd, rfl⟩ := attach_eq_ok_iff.mp done
  cases found : (added.wrap m.layer).find? request.path with
  | none =>
      refine ⟨plain.fallback, ?_, .inl ⟨List.mem_cons_self, ?_⟩⟩
      · rw [Router.select, found, Router.wrap, Router.fallback_add hadd]
      · rintro ⟨route, captures, hit, -⟩
        rw [found] at hit
        cases hit
  | some hit =>
      obtain ⟨route, captures⟩ := hit
      obtain ⟨bare, member, rfl⟩ := List.mem_map.mp (Router.find?_mem found)
      refine ⟨(bare.table.select request.method).service, ?_, ?_⟩
      · rw [Router.select, found]
        simp only [MethodTable.select_wrap]
      by_cases here : bare.path = m.exporterPath
      · refine .inr ⟨⟨_, captures, found, here⟩, ?_⟩
        rcases Router.mem_add hadd member with old | joins
        · exact .inr (.inr ⟨bare, old, here, bare.table.select_mem request.method⟩)
        · exact joins.select_cases request.method
      · refine .inl ⟨?_, ?_⟩
        · rcases Router.mem_add hadd member with old | joins
          · exact List.mem_cons_of_mem _
              (List.mem_flatMap.mpr ⟨bare, old, bare.table.select_mem request.method⟩)
          · exact absurd joins.1 here
        · rintro ⟨other, taken, hit, there⟩
          rw [found] at hit
          cases hit
          exact here there

/-- The path of the exporter is sent to its route. -/
theorem find?_exporterPath (built : plain.Built)
    (done : (m.attach accounts t plain).2 = .ok metered) :
    ∃ route captures, plain.Joins m.exporterPath (.single .get (m.exporter accounts)) route ∧
      metered.find? m.exporterPath =
        some ({ route with table := route.table.wrap m.layer }, captures) := by
  have whole := built_attach built done
  obtain ⟨-, added, hadd, rfl⟩ := attach_eq_ok_iff.mp done
  obtain ⟨route, member, joins⟩ := Router.exists_joins hadd
  have wrapped : { route with table := route.table.wrap m.layer } ∈ (added.wrap m.layer).routes :=
    List.mem_map_of_mem member
  obtain ⟨captures, found⟩ := whole.find?_own wrapped
  refine ⟨route, captures, joins, ?_⟩
  rw [← joins.1]
  exact found

/-- GET for the path of the exporter goes to the exporter. -/
theorem select_exporter (built : plain.Built) (done : (m.attach accounts t plain).2 = .ok metered)
    {request : Request} (own : request.path = m.exporterPath)
    (method : request.method = "GET" ∨ request.method = "HEAD" ∧
      ∀ old ∈ plain.routes, old.path = m.exporterPath → old.table.find? .head = none) :
    (metered.select request).1 =
      { service := (m.exporter accounts).wrap m.layer
        stripsBody := request.method == "HEAD" } := by
  obtain ⟨route, captures, joins, found⟩ := find?_exporterPath built done
  rw [Router.select, own, found]
  simp only [MethodTable.select_wrap]
  rcases method with get | ⟨head, headless⟩
  · rw [get, MethodTable.select_get joins.find?_get]
    rfl
  · rw [head, MethodTable.select_head joins.find?_get (joins.find?_head headless)]
    rfl

/-- A path without marks is the only one that is sent to the route of the exporter. -/
theorem dispatches_iff (built : plain.Built) (done : (m.attach accounts t plain).2 = .ok metered)
    (unmarked : m.exporterPath.toList.any Piece.isMark = false) (path : String) :
    metered.Dispatches m.exporterPath path ↔ path = m.exporterPath := by
  have whole := built_attach built done
  obtain ⟨bare, captures, joins, found⟩ := find?_exporterPath built done
  have member := Router.find?_mem found
  let own : Route := { bare with table := bare.table.wrap m.layer }
  have here : own.path = m.exporterPath := joins.1
  have pattern : own.pattern = Piece.plain (Text.bytes own.path) := by
    have read := whole.faithful own member
    rw [here, Piece.read_of_no_mark unmarked, ← here] at read
    exact (Except.ok.inj read).symm
  rw [← here]
  exact whole.faithful.dispatches_iff member pattern
    (fun other there same => whole.route_eq member there same) path

end RequestMeter

end TrafficMeter.Routing
