import TrafficMeter.Demo
import TrafficMeter.Proofs.Routing.Mounting

/-!
# Where the demo application sends a request

The demo application greets at "/hello/" and one more segment. Its exporter can be at any path
without marks, also at one that would be greeted: a path that is written out goes before a capture.

Main statement: `sent_select`, where any request goes.
-/

namespace TrafficMeter.Text

/-- Where bytes begin with that of a character of seven bits, there is this character. -/
theorem eq_of_utf8EncodeChar_append {a c : Char} (small : a.val.toNat < 0x80)
    {rest more : List UInt8}
    (same : String.utf8EncodeChar c ++ more = String.utf8EncodeChar a ++ rest) :
    c = a ∧ more = rest := by
  have single : String.utf8EncodeChar a = [UInt8.ofNat a.val.toNat] := by
    rw [String.utf8EncodeChar, if_pos (Nat.le_of_lt_succ small)]
  have value : (UInt8.ofNat a.val.toNat).toNat = a.val.toNat :=
    UInt8.toNat_ofNat_of_lt' (by change _ < 256; omega)
  have first : UInt8.ofNat a.val.toNat ∈ String.utf8EncodeChar c := by
    cases bytes : String.utf8EncodeChar c with
    | nil => exact absurd bytes String.utf8EncodeChar_ne_nil
    | cons b bs =>
        rw [bytes, single, List.cons_append] at same
        exact (List.cons.inj same).1 ▸ List.mem_cons_self
  have equal : c = a := by
    apply Char.ext
    apply UInt32.toNat_inj.mp
    rw [Routing.ascii_mem_utf8EncodeChar (by rw [value]; exact small) first, value]
  refine ⟨equal, ?_⟩
  rw [equal] at same
  exact List.append_cancel_left same

/-- A text whose bytes begin with those of characters of seven bits begins with these. -/
theorem exists_of_bytes_append {as : List Char} (small : ∀ a ∈ as, a.val.toNat < 0x80)
    {cs : List Char} {rest : List UInt8}
    (begins : cs.flatMap String.utf8EncodeChar = as.flatMap String.utf8EncodeChar ++ rest) :
    ∃ ds, cs = as ++ ds ∧ ds.flatMap String.utf8EncodeChar = rest := by
  induction as generalizing cs with
  | nil => exact ⟨cs, rfl, begins⟩
  | cons a as ih =>
      obtain ⟨low, others⟩ := List.forall_mem_cons.mp small
      rw [List.flatMap_cons, List.append_assoc] at begins
      cases cs with
      | nil =>
          have none := congrArg List.length begins
          have some := List.length_pos_iff.mpr (String.utf8EncodeChar_ne_nil (c := a))
          rw [List.flatMap_nil, List.length_nil, List.length_append] at none
          omega
      | cons c cs =>
          obtain ⟨rfl, deeper⟩ := eq_of_utf8EncodeChar_append low begins
          obtain ⟨ds, rfl, rest⟩ := ih others deeper
          exact ⟨ds, rfl, rest⟩

end TrafficMeter.Text

namespace TrafficMeter.Routing

/-- What a pattern matches that begins with bytes. -/
theorem Piece.match?_plain_append {as path : List UInt8} {ps : List Piece}
    {taken : List (List UInt8)} (matched : match? (plain as ++ ps) path = some taken) :
    ∃ rest, path = as ++ rest ∧ match? ps rest = some taken := by
  induction as generalizing path with
  | nil => exact ⟨path, rfl, matched⟩
  | cons a as ih =>
      cases path with
      | nil => cases matched
      | cons c path =>
          simp only [plain, List.map_cons, List.cons_append, match?] at matched
          split at matched
          · next same =>
              obtain ⟨rest, rfl, others⟩ := ih matched
              exact ⟨rest, by rw [same, List.cons_append], others⟩
          · cases matched

/-- What the capture of a last segment takes. -/
theorem Piece.match?_segment {name : String} {path : List UInt8} {taken : List (List UInt8)}
    (matched : match? [segment name] path = some taken) :
    path ≠ [] ∧ slash ∉ path ∧ taken = [path] := by
  cases path with
  | nil => cases matched
  | cons c cs =>
      obtain ⟨others, ended, rfl⟩ := Option.map_eq_some_iff.mp matched
      have parts := List.takeWhile_append_dropWhile (p := (· != slash)) (l := c :: cs)
      cases left : (c :: cs).dropWhile (· != slash) with
      | cons d ds =>
          rw [left] at ended
          cases ended
      | nil =>
          rw [left, List.append_nil] at parts
          rw [left] at ended
          cases ended
          refine ⟨List.cons_ne_nil c cs, ?_, by rw [parts]⟩
          intro member
          rw [← parts] at member
          simpa using List.all_eq_true.mp List.all_takeWhile _ member

namespace Router

/-- The route that is found matches, and the captures are what its pattern takes. -/
theorem captures_of_find? {r : Router} {path : String} {route : Route}
    {captures : List (String × String)} (found : r.find? path = some (route, captures)) :
    ∃ taken, Piece.match? route.pattern (Text.bytes path) = some taken ∧
      captures = (Piece.captureNames route.pattern).zip
        (taken.map fun bs => (Text.ofBytes? bs).getD "") := by
  obtain ⟨⟨own, taken⟩, hit, same⟩ := Option.map_eq_some_iff.mp found
  obtain ⟨pattern, member, matched⟩ := Bundle.find?_sound hit
  obtain ⟨other, -, entry⟩ := List.mem_map.mp member
  cases entry
  cases same
  exact ⟨taken, matched, rfl⟩

/-- Adding routes with different new paths adds these and no others. -/
theorem routes_addAll {new : List (String × MethodTable)} (distinct : (new.map Prod.fst).Nodup)
    {r all : Router} (unrouted : ∀ route ∈ r.routes, route.path ∉ new.map Prod.fst)
    (done : r.addAll new = .ok all) :
    (∀ route ∈ all.routes, route ∈ r.routes ∨ (route.path, route.table) ∈ new) ∧
      all.fallback = r.fallback ∧ (r.Built → all.Built) := by
  induction new generalizing r with
  | nil =>
      cases done
      exact ⟨fun route member => .inl member, rfl, id⟩
  | cons entry rest ih =>
      obtain ⟨path, table⟩ := entry
      obtain ⟨next, added, others⟩ := Attempt.bind_eq_ok_iff.mp done
      obtain ⟨fresh, distinct⟩ := List.nodup_cons.mp distinct
      have first : ∀ route ∈ next.routes,
          route ∈ r.routes ∨ route.path = path ∧ route.table = table := by
        intro route member
        rcases mem_add added member with old | ⟨own, ⟨same, -⟩ | ⟨old, known, there, -⟩⟩
        · exact .inl old
        · exact .inr ⟨own, same⟩
        · exact absurd (there ▸ List.mem_cons_self) (unrouted old known)
      have unrouted : ∀ route ∈ next.routes, route.path ∉ rest.map Prod.fst := by
        intro route member
        rcases first route member with old | ⟨own, -⟩
        · exact fun later => unrouted route old (List.mem_cons_of_mem _ later)
        · exact own ▸ fresh
      obtain ⟨members, fallback, built⟩ := ih distinct unrouted others
      refine ⟨?_, fallback.trans (fallback_add added), fun start => built (start.add added)⟩
      intro route member
      rcases members route member with here | later
      · rcases first route here with old | ⟨rfl, rfl⟩
        · exact .inl old
        · exact .inr List.mem_cons_self
      · exact .inr (List.mem_cons_of_mem _ later)

end Router

end TrafficMeter.Routing

namespace TrafficMeter.Demo

open TrafficMeter.Http (Request)
open TrafficMeter.Routing
open TrafficMeter.Traffic (Telemetry)

/-- The segment after "/hello/" of a path that has just one more. -/
def segment? (path : String) : Option String :=
  let front := "/hello/".toList
  let rest := path.toList.drop front.length
  if front <+: path.toList ∧ rest ≠ [] ∧ '/' ∉ rest then some (String.ofList rest) else none

theorem segment?_eq_some {path segment : String} :
    segment? path = some segment ↔
      path = "/hello/" ++ segment ∧ segment ≠ "" ∧ '/' ∉ segment.toList := by
  unfold segment?
  simp only
  constructor
  · intro found
    split at found
    · next fits =>
        obtain ⟨⟨rest, text⟩, some, solid⟩ := fits
        cases found
        rw [← text, List.drop_left] at some solid ⊢
        have chars : (String.ofList rest).toList = rest := String.toList_ofList
        refine ⟨?_, ?_, ?_⟩
        · apply String.toList_inj.mp
          rw [String.toList_append, chars, text]
        · rw [← String.toList_eq_nil_iff.ne, chars]
          exact some
        · rw [chars]
          exact solid
    · cases found
  · rintro ⟨rfl, some, solid⟩
    have full : segment.toList ≠ [] := String.toList_eq_nil_iff.ne.mpr some
    rw [String.toList_append, List.drop_left, if_pos ⟨List.prefix_append .., full, solid⟩,
      String.ofList_toList]

/-- The pattern of the greeting. -/
theorem read_hello : Piece.read "/hello/:name".toList =
    .ok (Piece.plain (Text.bytes "/hello/") ++ [.segment "name"]) := rfl

/-- The greeting is for one more segment, and captures it. -/
theorem segment?_of_match? {path : String} {taken : List (List UInt8)}
    (matched : Piece.match? (Piece.plain (Text.bytes "/hello/") ++ [.segment "name"])
      (Text.bytes path) = some taken) :
    ∃ segment, segment? path = some segment ∧ taken = [Text.bytes segment] := by
  obtain ⟨rest, split, captured⟩ := Piece.match?_plain_append matched
  obtain ⟨some, solid, rfl⟩ := Piece.match?_segment captured
  rw [Text.bytes_eq_flatMap, Text.bytes_eq_flatMap] at split
  have low : "/hello/".toList.all (·.val.toNat < 0x80) = true := by decide
  obtain ⟨ds, text, rfl⟩ := Text.exists_of_bytes_append
    (fun a member => of_decide_eq_true (List.all_eq_true.mp low a member)) split
  have segment : (String.ofList ds).toList = ds := String.toList_ofList
  refine ⟨String.ofList ds, segment?_eq_some.mpr ⟨?_, ?_, ?_⟩, by rw [Text.bytes_ofList]⟩
  · apply String.toList_inj.mp
    rw [text, String.toList_append, segment]
  · intro none
    rw [none] at segment
    exact some (by rw [← segment]; rfl)
  · rw [segment]
    intro member
    exact solid (List.mem_flatMap.mpr ⟨'/', member, by decide⟩)

/-! ## The services -/

/-- A service that is not measured and writes nothing to the recorder. -/
structure Mute (s : Service) : Prop where
  writes : ∀ h, s.core = .handler h → ∀ request captures, (h request captures).writes = []
  layers : ∀ m, .meter m ∉ s.layers

theorem mute_ofHandler {h : Handler}
    (silent : ∀ request captures, (h request captures).writes = []) :
    Mute (Service.ofHandler h) where
  writes := by
    intro own same
    cases same
    exact silent
  layers := by simp [Service.ofHandler]

theorem mute_exporter (m : RequestMeter) (accounts : Option Auth.Accounts) :
    Mute (m.exporter accounts) where
  writes := by
    intro own same
    rw [RequestMeter.core_exporter] at same
    cases same
  layers := fun other => RequestMeter.meter_not_mem_exporter

theorem mute_constant (reply : Reply) : Mute (Service.ofHandler (Handler.constant reply)) :=
  mute_ofHandler fun _ _ => rfl

/-- Of the routes of the demo application only that of the greeting writes anything. -/
theorem mute_of_mem_routes {path : String} {table : MethodTable} (member : (path, table) ∈ routes)
    (other : path ≠ "/hello/:name") : ∀ s ∈ table.services, Mute s := by
  have single : ∀ {verb : Verb} {h : Handler},
      (∀ request captures, (h request captures).writes = []) →
      ∀ s ∈ (MethodTable.single verb (Service.ofHandler h)).services, Mute s := by
    intro verb h silent s inside
    rcases List.mem_cons.mp inside with rfl | own
    · exact mute_constant _
    · rw [List.mem_singleton.mp own]
      exact mute_ofHandler silent
  simp only [routes, List.mem_cons, Prod.mk.injEq, List.not_mem_nil, or_false] at member
  rcases member with ⟨rfl, rfl⟩ | ⟨rfl, rfl⟩ | ⟨rfl, rfl⟩
  · exact single fun request captures => rfl
  · exact absurd rfl other
  · exact single fun request captures => rfl

/-- Where the demo application with its exporter at a path sends a request. -/
inductive Sent (path : String) (request : Request) (captures : List (String × String)) :
    Service → Prop
  /-- To the greeting, by its method and by the form of its path. -/
  | greeted {segment : String} (found : segment? request.path = some segment)
      (captured : captures = [("name", segment)]) (other : request.path ≠ path)
      (method : request.method = "GET" ∨ request.method = "HEAD") :
      Sent path request captures (Service.ofHandler hello)
  /-- To nothing that could answer it. -/
  | refused {status : Nat} (failed : status ≠ 200) :
      Sent path request captures (Service.ofHandler (Handler.constant { status }))
  /-- To something else, for its path. -/
  | elsewhere {s : Service} (mute : Mute s)
      (other : request.path = path ∨ segment? request.path = none) : Sent path request captures s

variable {m : RequestMeter} {accounts : Option Auth.Accounts} {t : Telemetry}
  {plain metered : Router}

/-- Without marks, the exporter's path is not that of the greeting. -/
theorem ne_of_unmarked {path : String} (unmarked : path.toList.any Piece.isMark = false) :
    path ≠ "/hello/:name" := by
  rintro rfl
  exact absurd unmarked (by decide)

/-- What is found at a path without captures was sent there. -/
theorem path_of_plain {path own : String} {pattern : List Piece} {taken : List (List UInt8)}
    (read : Piece.read own.toList = .ok (Piece.plain (Text.bytes own)))
    (faithful : Piece.read own.toList = .ok pattern)
    (matched : Piece.match? pattern (Text.bytes path) = some taken) : path = own := by
  cases read.symm.trans faithful
  rw [Piece.match?_plain] at matched
  split at matched
  · next same => exact Text.bytes_injective same
  · cases matched

/-- Whom the greeting's table gives a request whose path is greeted. -/
theorem sent_hello {path segment : String} {request : Request} (other : request.path ≠ path)
    (found : segment? request.path = some segment) :
    Sent path request [("name", segment)]
      ((MethodTable.single .get (Service.ofHandler hello)).select request.method).service := by
  rcases (MethodTable.single .get (Service.ofHandler hello)).select_cases request.method with
    ⟨verb, chosen, word⟩ | rest
  · rw [MethodTable.find?_single] at chosen
    split at chosen
    · next own =>
        cases own
        rw [← Option.some.inj chosen]
        exact .greeted found rfl other (word.imp id And.left)
    · cases chosen
  · rw [rest]
    exact .refused (by decide)

/-- Where a request goes that is sent to a route of the demo application. -/
theorem sent_route {path : String} {request : Request} {route : Route} {taken : List (List UInt8)}
    (known : (route.path, route.table) ∈ routes) (other : request.path ≠ path)
    (read : Piece.read route.path.toList = .ok route.pattern)
    (matched : Piece.match? route.pattern (Text.bytes request.path) = some taken) :
    Sent path request
      ((Piece.captureNames route.pattern).zip (taken.map fun bs => (Text.ofBytes? bs).getD ""))
      (route.table.select request.method).service := by
  obtain ⟨own, pattern, table⟩ := route
  have mute := mute_of_mem_routes known
  simp only at read matched mute ⊢
  simp only [routes, List.mem_cons, Prod.mk.injEq, List.not_mem_nil, or_false] at known
  rcases known with ⟨rfl, rfl⟩ | ⟨rfl, rfl⟩ | ⟨rfl, rfl⟩
  · refine .elsewhere (mute (by decide) _ (MethodTable.select_mem ..)) (.inr ?_)
    rw [path_of_plain rfl read matched]
    decide
  · cases read_hello.symm.trans read
    obtain ⟨segment, found, rfl⟩ := segment?_of_match? matched
    have captured : (Piece.captureNames (Piece.plain (Text.bytes "/hello/") ++
        [.segment "name"])).zip ([Text.bytes segment].map fun bs => (Text.ofBytes? bs).getD "") =
          [("name", segment)] := by
      rw [List.map_singleton, Text.ofBytes?_bytes]
      rfl
    rw [captured]
    exact sent_hello other found
  · refine .elsewhere (mute (by decide) _ (MethodTable.select_mem ..)) (.inr ?_)
    rw [path_of_plain rfl read matched]
    decide

/-- Whatever answers at the path of the exporter is mute. -/
theorem mute_select {added : Router}
    (hadd : plain.add m.exporterPath (.single .get (m.exporter accounts)) = .ok added)
    (members : ∀ route ∈ plain.routes, (route.path, route.table) ∈ routes)
    (unmarked : m.exporterPath.toList.any Piece.isMark = false) {route : Route}
    (known : route ∈ added.routes) (here : route.path = m.exporterPath) (method : String) :
    Mute (route.table.select method).service := by
  have old : ∀ other ∈ plain.routes, other.path = m.exporterPath →
      ∀ s ∈ other.table.services, Mute s := by
    intro other inside there
    exact mute_of_mem_routes (members other inside) (there ▸ ne_of_unmarked unmarked)
  rcases Router.mem_add hadd known with inside | joins
  · exact old route inside here _ (MethodTable.select_mem ..)
  · rcases joins.select_cases method with ⟨own, -⟩ | none | ⟨other, inside, there, own⟩
    · rw [own]
      exact mute_exporter m accounts
    · rw [none]
      exact mute_constant _
    · exact old other inside there _ own

/-- Where any request goes. -/
theorem sent_select (all : Router.addAll {} routes = .ok plain)
    (done : (m.attach accounts t plain).2 = .ok metered)
    (unmarked : m.exporterPath.toList.any Piece.isMark = false) (request : Request) :
    ∃ inner : Service, (metered.select request).1.service = inner.wrap m.layer ∧
      Sent m.exporterPath request (metered.select request).2 inner := by
  obtain ⟨members, fallback, build⟩ := Router.routes_addAll (by decide) (by simp) all
  have built : plain.Built := build .empty
  have member : ∀ route ∈ plain.routes, (route.path, route.table) ∈ routes := by
    intro route known
    exact (members route known).resolve_left (by simp)
  have faithful := (RequestMeter.built_attach built done).faithful
  have alone := RequestMeter.dispatches_iff built done unmarked
  obtain ⟨-, added, hadd, rfl⟩ := RequestMeter.attach_eq_ok_iff.mp done
  cases found : (added.wrap m.layer).find? request.path with
  | none =>
      refine ⟨plain.fallback, ?_, ?_⟩
      · rw [Router.select, found, Router.wrap, Router.fallback_add hadd]
      · rw [fallback]
        exact .refused (by decide)
  | some hit =>
      obtain ⟨route, captures⟩ := hit
      obtain ⟨bare, known, rfl⟩ := List.mem_map.mp (Router.find?_mem found)
      obtain ⟨taken, matched, rfl⟩ := Router.captures_of_find? found
      have read := faithful _ (Router.find?_mem found)
      rw [Router.select, found]
      simp only [MethodTable.select_wrap]
      refine ⟨(bare.table.select request.method).service, rfl, ?_⟩
      by_cases here : bare.path = m.exporterPath
      · refine .elsewhere ?_ (.inl ((alone _).mp ⟨_, _, found, here⟩))
        exact mute_select hadd member unmarked known here request.method
      · have other : request.path ≠ m.exporterPath := by
          intro own
          obtain ⟨route, captures, hit, there⟩ := (alone _).mpr own
          rw [found] at hit
          cases hit
          exact here there
        have inside := (Router.mem_add hadd known).resolve_right fun joins => here joins.1
        exact sent_route (member bare inside) other read matched

end TrafficMeter.Demo
