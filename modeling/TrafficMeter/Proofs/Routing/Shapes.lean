import TrafficMeter.Proofs.Routing.Insertion
import TrafficMeter.Proofs.Routing.Mounting

/-!
# What a router finds by its paths

Which route a path finds, and what is captured on the way, depends on the paths of the routes and
not on what stands behind them.

Main statements: `find?_shape`, that the paths decide what is found, and
`RequestMeter.find?_attach`, what a path finds after a meter was attached.
-/

namespace TrafficMeter.Routing

open TrafficMeter.Traffic (Telemetry)

namespace Outcome

variable {α β : Type} (f : α → β)

/-- Replaces what the pattern stands for. -/
def map : Outcome α → Outcome β
  | found v captures => found (f v) captures
  | retry => retry
  | stop => stop

theorem map_failure (path : List UInt8) : (failure path : Outcome α).map f = failure path := by
  unfold failure
  split <;> rfl

theorem map_prepend (taken : List UInt8) (o : Outcome α) :
    (o.prepend taken).map f = (o.map f).prepend taken := by
  cases o <;> rfl

theorem map_orElse (first second : Outcome α) :
    (first.orElse second).map f = (first.map f).orElse (second.map f) := by
  cases first <;> rfl

theorem toOption_map (o : Outcome α) :
    (o.map f).toOption = o.toOption.map fun (v, captures) => (f v, captures) := by
  cases o <;> rfl

end Outcome

namespace Bundle

variable {α β : Type} (f : α → β)

/-- Replaces what the patterns stand for. -/
def relabel (b : Bundle α) : Bundle β := b.map fun (ps, v) => (ps, f v)

theorem label_relabel (b : Bundle α) : (b.relabel f).label = b.label := by
  induction b with
  | nil => rfl
  | cons e b ih =>
      cases b with
      | nil => rfl
      | cons e' b => exact congrArg (common (lead e.1)) ih

theorem after_relabel (n : Nat) (b : Bundle α) :
    (b.relabel f).after n = (b.after n).relabel f := by
  simp [after, relabel]

theorem ended?_relabel (b : Bundle α) : (b.relabel f).ended? = b.ended?.map f := by
  rw [ended?, relabel, List.find?_map, Option.map_map, ended?, Option.map_map]
  rfl

theorem branch_relabel (c : UInt8) (b : Bundle α) :
    (b.relabel f).branch c = (b.branch c).relabel f := by
  rw [branch, relabel, List.filter_map]
  rfl

theorem rests_relabel (b : Bundle α) : (b.relabel f).rests = b.rests.relabel f := by
  rw [rests, relabel, List.filter_map]
  rfl

theorem deeper_relabel (b : Bundle α) : (b.relabel f).deeper = b.deeper.relabel f := by
  rw [deeper, relabel, List.filter_map]
  rfl

theorem segments_relabel (b : Bundle α) : (b.relabel f).segments = b.segments.relabel f := by
  induction b with
  | nil => rfl
  | cons e b ih =>
      obtain ⟨ps, v⟩ := e
      match ps with
      | .segment _ :: more => exact congrArg ((more, f v) :: ·) ih
      | [] | .byte _ :: _ | .rest _ :: _ => exact ih

theorem isEmpty_relabel (b : Bundle α) : (b.relabel f).isEmpty = b.isEmpty := List.isEmpty_map

theorem endsInSlash_relabel (b : Bundle α) : (b.relabel f).endsInSlash = b.endsInSlash := by
  rw [endsInSlash, label_relabel, after_relabel, ended?_relabel, Option.isSome_map]
  rfl

theorem capture_relabel {go : Bundle α → List UInt8 → Outcome α}
    {go' : Bundle β → List UInt8 → Outcome β}
    (same : ∀ b path, go' (b.relabel f) path = (go b path).map f) (b : Bundle α)
    (path : List UInt8) : capture go' (b.relabel f) path = (capture go b path).map f := by
  unfold capture
  simp only [segments_relabel, rests_relabel, deeper_relabel, isEmpty_relabel, ended?_relabel,
    endsInSlash_relabel, label_relabel, same]
  cases b.segments.isEmpty with
  | true =>
      cases b.rests with
      | nil => exact (Outcome.map_failure f path).symm
      | cons e rests => rfl
  | false =>
      cases path.dropWhile (· != slash) with
      | nil =>
          cases b.segments.ended? with
          | some v => rfl
          | none => cases b.segments.deeper.endsInSlash <;> rfl
      | cons c more =>
          simp only [Bool.false_eq_true, if_false, Option.isSome_map]
          split
          · rfl
          · exact (Outcome.map_prepend ..).symm

/-- A search is not concerned with what the patterns stand for. -/
theorem search_relabel (fuel : Nat) (b : Bundle α) (path : List UInt8) :
    search fuel (b.relabel f) path = (search fuel b path).map f := by
  induction fuel generalizing b path with
  | zero => rfl
  | succ fuel ih =>
      rw [search_eq, search_eq, advance, advance]
      simp only [label_relabel, after_relabel, ended?_relabel, branch_relabel, isEmpty_relabel,
        endsInSlash_relabel, capture_relabel f ih, ih]
      cases strip? b.label path with
      | none =>
          simp only [Option.isSome_map]
          split
          · rfl
          · exact (Outcome.map_failure f path).symm
      | some more =>
          cases more with
          | nil =>
              cases (b.after b.label.length).ended? with
              | some v => rfl
              | none =>
                  simp only [Option.map_none]
                  split
                  · rfl
                  · exact (Outcome.map_failure f path).symm
          | cons c rest =>
              simp only [Option.isSome_map]
              split
              · rfl
              · split
                · rfl
                · exact (Outcome.map_orElse ..).symm

theorem find?_relabel (b : Bundle α) (path : List UInt8) :
    (b.relabel f).find? path = (b.find? path).map fun (v, captures) => (f v, captures) := by
  rw [find?, search_relabel, Outcome.toOption_map]
  rfl

end Bundle

namespace Router

/-- The path that another path finds, with what is captured. -/
def findPath? (shape : List (String × List Piece)) (path : String) :
    Option (String × List (String × String)) :=
  (Bundle.find? (shape.map fun e => (e.2, e)) (Text.bytes path)).map fun (e, taken) =>
    (e.1, (Piece.captureNames e.2).zip (taken.map fun bs => (Text.ofBytes? bs).getD ""))

/-- What a path finds in a router is decided by the paths of the routes. -/
theorem find?_shape (r : Router) (path : String) :
    (r.find? path).map (fun (route, captures) => (route.path, captures)) =
      findPath? r.shape path := by
  have same : r.shape.map (fun e => (e.2, e)) =
      r.bundle.relabel fun route => (route.path, route.pattern) := by
    simp [shape, bundle, Bundle.relabel]
  rw [findPath?, same, Bundle.find?_relabel, find?, Option.map_map, Option.map_map]
  rfl

/-- One more path without marks changes what another one finds at most by a slash. -/
theorem findPath?_concat {shape : List (String × List Piece)} (h : Coherent shape)
    {new path : String} (other : path ≠ new) :
    findPath? (shape ++ [(new, Piece.plain (Text.bytes new))]) path = findPath? shape path ∨
      findPath? (shape ++ [(new, Piece.plain (Text.bytes new))]) path = none ∧
        SlashOff (Text.bytes new) (Text.bytes path) := by
  have bytes : Text.bytes path ≠ Text.bytes new := fun same => other (Text.bytes_injective same)
  rw [findPath?, findPath?, List.map_append]
  rcases Bundle.find?_concat (h.orderly id) (new, Piece.plain (Text.bytes new)) bytes with
    same | ⟨none, off⟩
  · exact .inl (congrArg _ same)
  · exact .inr ⟨congrArg (Option.map _) none, off⟩

/-- A route without marks is found by its own path only. -/
theorem Faithful.path_of_unmarked {r : Router} (h : r.Faithful) {path : String} {route : Route}
    {captures : List (String × String)} (found : r.find? path = some (route, captures))
    (unmarked : route.path.toList.any Piece.isMark = false) : path = route.path := by
  obtain ⟨member, matched⟩ := match?_of_find? found
  have pieces := Piece.read_of_no_mark unmarked
  rw [h route member, Except.ok.injEq] at pieces
  rw [pieces, Piece.match?_plain] at matched
  split at matched
  · next equal => exact Text.bytes_injective equal
  · cases matched

end Router

namespace RequestMeter

variable {m : RequestMeter} {accounts : Option Auth.Accounts} {t : Telemetry}
  {plain metered : Router}

/-- A meter adds its path to those that there are, or has it already. -/
theorem shape_attach (done : (m.attach accounts t plain).2 = .ok metered)
    (unmarked : m.exporterPath.toList.any Piece.isMark = false) :
    metered.shape = plain.shape ∨
      metered.shape =
        plain.shape ++ [(m.exporterPath, Piece.plain (Text.bytes m.exporterPath))] := by
  obtain ⟨-, added, hadd, rfl⟩ := attach_eq_ok_iff.mp done
  rw [Router.shape_wrap]
  rcases Router.shape_add hadd with same | ⟨pattern, read, -, longer⟩
  · exact .inl same
  · have pieces := Piece.read_of_no_mark unmarked
    rw [read, Except.ok.injEq] at pieces
    exact .inr (pieces ▸ longer)

variable (built : plain.Built) (done : (m.attach accounts t plain).2 = .ok metered)
  (unmarked : m.exporterPath.toList.any Piece.isMark = false) {path : String}

include built done unmarked

/-- After a meter was attached another path finds the path that it found before, or nothing because
of a slash. -/
theorem find?_path_attach (other : path ≠ m.exporterPath) :
    metered.find? path = none ∧ SlashOff (Text.bytes m.exporterPath) (Text.bytes path) ∨
      (metered.find? path).map (fun (route, captures) => (route.path, captures)) =
        (plain.find? path).map fun (route, captures) => (route.path, captures) := by
  rw [Router.find?_shape plain]
  rcases shape_attach done unmarked with same | longer
  · rw [Router.find?_shape, same]
    exact .inr rfl
  · have concat := Router.findPath?_concat built.coherent other
    rw [← longer, ← Router.find?_shape] at concat
    exact concat.symm.imp_left fun lost => ⟨Option.map_eq_none_iff.mp lost.1, lost.2⟩

/-- A route that is not found any longer has marks: without them it would be found by its path. -/
theorem marked_of_lost (none : metered.find? path = none) {route : Route}
    {captures : List (String × String)} (found : plain.find? path = some (route, captures)) :
    route.path.toList.any Piece.isMark = true := by
  by_contra plainly
  rw [Bool.not_eq_true] at plainly
  have own := built.faithful.path_of_unmarked found plainly
  have listed : (route.path, route.pattern) ∈ metered.shape := by
    have before : (route.path, route.pattern) ∈ plain.shape :=
      List.mem_map_of_mem (Router.find?_mem found)
    rcases shape_attach done unmarked with same | longer
    · rw [same]
      exact before
    · rw [longer]
      exact List.mem_append_left _ before
  obtain ⟨kept, member, same⟩ := List.mem_map.mp listed
  obtain ⟨taken, hit⟩ := (built_attach built done).find?_own member
  rw [(Prod.mk.inj same).1, ← own, none] at hit
  cases hit

/-- A route that is still found is the same but for the meter. -/
theorem route_attach (other : path ≠ m.exporterPath) {route kept : Route}
    {captures taken : List (String × String)} (found : plain.find? path = some (route, captures))
    (hit : metered.find? path = some (kept, taken)) (same : kept.path = route.path) :
    kept = { route with table := route.table.wrap m.layer } := by
  have elsewhere : kept.path ≠ m.exporterPath := by
    intro own
    exact other ((dispatches_iff built done unmarked path).mp ⟨kept, taken, hit, own⟩)
  obtain ⟨-, added, hadd, rfl⟩ := attach_eq_ok_iff.mp done
  obtain ⟨bare, member, rfl⟩ := List.mem_map.mp (Router.find?_mem hit)
  rcases Router.mem_add hadd member with old | joins
  · rw [built.route_eq (Router.find?_mem found) old same]
  · exact absurd joins.1 elsewhere

/-- What a path other than that of the exporter finds after a meter was attached: the route that it
found before, or no route any more because of a slash, and then it was a route with marks. -/
theorem find?_attach (other : path ≠ m.exporterPath) :
    metered.find? path = (plain.find? path).map (fun (route, captures) =>
        ({ route with table := route.table.wrap m.layer }, captures)) ∨
      metered.find? path = none ∧
        SlashOff (Text.bytes m.exporterPath) (Text.bytes path) ∧
        ∃ route captures, plain.find? path = some (route, captures) ∧
          route.path.toList.any Piece.isMark = true := by
  rcases find?_path_attach built done unmarked other with ⟨none, off⟩ | same
  · cases found : plain.find? path with
    | none => exact .inl none
    | some hit =>
        exact .inr ⟨none, off, hit.1, hit.2, rfl, marked_of_lost built done unmarked none found⟩
  · refine .inl ?_
    cases found : plain.find? path with
    | none =>
        rw [found, Option.map_none, Option.map_eq_none_iff] at same
        exact same
    | some before =>
        obtain ⟨route, captures⟩ := before
        rw [found, Option.map_some, Option.map_eq_some_iff] at same
        obtain ⟨⟨kept, taken⟩, hit, equal⟩ := same
        obtain ⟨here, rfl⟩ := Prod.mk.inj equal
        rw [hit, route_attach built done unmarked other found hit here]
        rfl

end RequestMeter

end TrafficMeter.Routing
