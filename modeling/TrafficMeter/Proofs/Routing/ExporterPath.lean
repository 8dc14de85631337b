import TrafficMeter.Proofs.Routing.Effects
import TrafficMeter.Proofs.Routing.Patterns
import TrafficMeter.Proofs.Routing.Services

/-!
# The path of the exporter

A meter leaves the requests to one path alone, and the router should send just these requests to
the exporter. It does so for a path without marks. A path may have a mark within a segment,
however, and then the router takes it for a pattern.

Main statement: `exporterAlone_iff`, that the exporter has its path for itself if and only if the
path has no mark.
-/

namespace TrafficMeter.Routing

open TrafficMeter.Http (Request)
open TrafficMeter.Traffic (Telemetry Collectors)

namespace Router

/-- The routers that can be put together. -/
inductive Built : Router → Prop where
  | empty : Built {}
  | withFallback {r : Router} (built : Built r) (h : Handler) : Built (r.withFallback h)
  | add {r added : Router} {path : String} {table : MethodTable} (built : Built r)
      (done : r.add path table = .ok added) : Built added
  | merge {r other joined : Router} (built : Built r) (others : Built other)
      (done : r.merge other = .ok joined) : Built joined
  | wrap {r : Router} (built : Built r) (layer : Layer) : Built (r.wrap layer)

/-- The patterns are those that are read from the paths. -/
def Faithful (r : Router) : Prop :=
  ∀ route ∈ r.routes, Piece.read route.path.toList = .ok route.pattern

theorem readPattern_eq_ok_iff {r : Router} {path : String} {pattern : List Piece} :
    r.readPattern path = .ok pattern ↔
      Piece.read path.toList = .ok pattern ∧
        Clash.check (r.routes.map Route.pattern) pattern = .ok () := by
  rw [readPattern, Attempt.bind_eq_ok_iff]
  constructor
  · rintro ⟨own, read, checked⟩
    obtain ⟨nothing, fits, done⟩ := Attempt.bind_eq_ok_iff.mp checked
    cases done
    exact ⟨read, fits⟩
  · rintro ⟨read, fits⟩
    exact ⟨pattern, read, Attempt.bind_eq_ok_iff.mpr ⟨(), fits, rfl⟩⟩

/-- The paths of the routes with their patterns. -/
def shape (r : Router) : List (String × List Piece) :=
  r.routes.map fun route => (route.path, route.pattern)

theorem shape_wrap (r : Router) (layer : Layer) : (r.wrap layer).shape = r.shape := by
  simp [shape, wrap]

/-- A new path comes last, with the pattern that is read and can stand beside the others. -/
theorem shape_add {r added : Router} {path : String} {table : MethodTable}
    (done : r.add path table = .ok added) :
    added.shape = r.shape ∨
      ∃ pattern, Piece.read path.toList = .ok pattern ∧
        Clash.check (r.shape.map Prod.snd) pattern = .ok () ∧
        added.shape = r.shape ++ [(path, pattern)] := by
  rcases add_cases done with ⟨before, old, joined, after, same, -, -, rfl⟩ | ⟨pattern, read, -, rfl⟩
  · refine .inl ?_
    simp [shape, same]
  · obtain ⟨pieces, fits⟩ := readPattern_eq_ok_iff.mp read
    refine .inr ⟨pattern, pieces, ?_, by simp [shape]⟩
    rw [shape, List.map_map]
    exact fits

/-- Paths are added one after the other. -/
theorem Built.shape_induction {P : List (String × List Piece) → Prop} (empty : P [])
    (grow : ∀ shape path pattern, P shape → Piece.read path.toList = .ok pattern →
      Clash.check (shape.map Prod.snd) pattern = .ok () → P (shape ++ [(path, pattern)]))
    {r : Router} (built : r.Built) : P r.shape := by
  have add : ∀ {r added : Router} {path table}, P r.shape → r.add path table = .ok added →
      P added.shape := by
    intro r added path table own done
    rcases shape_add done with same | ⟨pattern, read, fits, longer⟩
    · rw [same]
      exact own
    · rw [longer]
      exact grow _ _ _ own read fits
  induction built with
  | empty => exact empty
  | withFallback _ h ih => exact ih
  | add _ done ih => exact add ih done
  | merge _ _ done ih _ =>
      obtain ⟨added, all, joined⟩ := merge_cases done
      have own : P added.shape :=
        addAll_induction (P := fun r => P r.shape) (fun _ done own => add own done) all ih
      rcases joined with ⟨-, rfl⟩ | ⟨-, rfl⟩ <;> exact own
  | wrap _ layer ih =>
      rw [shape_wrap]
      exact ih

theorem Built.faithful {r : Router} (built : r.Built) : r.Faithful := by
  have all := built.shape_induction
    (P := fun shape => ∀ e ∈ shape, Piece.read e.1.toList = .ok e.2) (by simp) (by
      intro shape path pattern own read _ e member
      rcases List.mem_append.mp member with old | new
      · exact own e old
      · rw [List.mem_singleton] at new
        subst new
        exact read)
  intro route member
  exact all _ (List.mem_map_of_mem member)

/-- A path without marks has its pattern for itself. -/
theorem Faithful.path_of_plain {r : Router} (h : r.Faithful) {route : Route}
    (member : route ∈ r.routes) {path : String}
    (pattern : route.pattern = Piece.plain (Text.bytes path)) : route.path = path := by
  have read := h route member
  have own := read
  rw [pattern] at read
  rw [Piece.read_of_no_mark (Piece.no_mark_of_read_plain read), pattern, Except.ok.injEq] at own
  exact Text.bytes_injective (Piece.plain_injective own)

/-- A path without marks can be added wherever it is not there yet. -/
theorem Faithful.add_plain {r : Router} (h : r.Faithful) {path : String}
    (absolute : "/".toList <+: path.toList) (plain : path.toList.any Piece.isMark = false)
    (new : ∀ route ∈ r.routes, route.path ≠ path) (table : MethodTable) :
    r.add path table =
      .ok { r with routes := r.routes ++ [⟨path, Piece.plain (Text.bytes path), table⟩] } := by
  have read : r.readPattern path = .ok (Piece.plain (Text.bytes path)) := by
    have pieces := Piece.read_of_no_mark plain
    have fits : Clash.check (r.routes.map Route.pattern) (Piece.plain (Text.bytes path)) =
        .ok () := by
      apply Clash.check_plain
      intro member
      obtain ⟨route, hr, pattern⟩ := List.mem_map.mp member
      exact new route hr (h.path_of_plain hr pattern)
    exact readPattern_eq_ok_iff.mpr ⟨pieces, fits⟩
  have begins : path.startsWith "/" = true := String.startsWith_string_iff.mpr absolute
  have nonempty : path.isEmpty = false := by
    rw [Bool.eq_false_iff]
    intro empty
    rw [String.isEmpty_iff] at empty
    subst empty
    exact absurd absolute (by decide)
  have none : (r.routes.any fun route => route.path == path) = false := by
    rw [List.any_eq_false]
    intro route hr
    simpa using new route hr
  simp [Router.add, nonempty, begins, none, read]

end Router

/-! ## Requests for the exporter -/

/-- A path is sent to the route of another path. -/
def Router.Dispatches (r : Router) (path request : String) : Prop :=
  ∃ route captures, r.find? request = some (route, captures) ∧ route.path = path

/-- A path can be added as far as the routes that are there matter. -/
def Router.FreeAt (r : Router) (path : String) : Prop :=
  (∀ route ∈ r.routes, route.path ≠ path) ∧ ∀ other, r.readPattern path ≠ .error (.conflict other)

/-- A meter changes nothing for a request. -/
def Meter.Skips (m : Meter) (request : Request) : Prop :=
  ∀ core captures elapsed inner t,
    respondThrough core request captures elapsed (.meter m :: inner) t =
      respondThrough core request captures elapsed inner t

/-- A meter can be attached to every router that is free at the path. The route of the path is then
that of the exporter, it is sent the requests for this path and no others, and they are what the
meter leaves alone. -/
def ExporterAlone (path : String) : Prop :=
  ∀ r : Router, r.Built → r.FreeAt path →
    ∀ (c : Collectors) (accounts : Option Auth.Accounts) (t : Telemetry),
      ∃ attached, (RequestMeter.attach ⟨c, path⟩ accounts t r).2 = .ok attached ∧
        (∀ route ∈ attached.routes, route.path = path →
          route.table = (MethodTable.single .get
            (RequestMeter.exporter ⟨c, path⟩ accounts)).wrap (.meter ⟨c, path⟩)) ∧
        (∀ request, attached.Dispatches path request ↔ request = path) ∧
        ∀ request, Meter.Skips ⟨c, path⟩ request ↔ attached.Dispatches path request.path

theorem Meter.skips_iff (m : Meter) (request : Request) :
    m.Skips request ↔ request.path = m.exporterPath := by
  constructor
  · intro skips
    by_cases own : request.path = m.exporterPath
    · exact own
    exfalso
    have same := congrArg Prod.snd (skips (.exporter 0) [] 0 [] {})
    -- the page itself has no meter around its body
    obtain ⟨size, plain, -, -, measured⟩ := measured_of_answered own same
    cases congrArg Traffic.Response.body measured
  · intro own core captures elapsed inner t
    exact respondThrough_meter_own core captures elapsed inner t own

/-- A route without captures is sent the requests for its own path and no others. -/
theorem Router.Faithful.dispatches_iff {r : Router} (h : r.Faithful) {route : Route}
    (member : route ∈ r.routes) (pattern : route.pattern = Piece.plain (Text.bytes route.path))
    (alone : ∀ other ∈ r.routes, other.path = route.path → other = route) (request : String) :
    r.Dispatches route.path request ↔ request = route.path := by
  constructor
  · rintro ⟨other, captures, found, same⟩
    obtain ⟨there, matched⟩ := Router.match?_of_find? found
    rw [alone other there same, pattern, Piece.match?_plain] at matched
    split at matched
    · next equal => exact Text.bytes_injective equal
    · cases matched
  · rintro rfl
    obtain ⟨other, there, same, found⟩ := Router.find?_of_plain member pattern
    exact ⟨other, [], found, h.path_of_plain there (same.trans pattern)⟩

theorem exporterAlone_of_no_mark {path : String} (valid : validPath path = true)
    (plain : path.toList.any Piece.isMark = false) : ExporterAlone path := by
  intro r built free c accounts t
  obtain ⟨cs, slashed, -⟩ := (validPath_iff path).mp valid
  have absolute : "/".toList <+: path.toList := by
    rw [slashed]
    exact ⟨cs, rfl⟩
  let m : RequestMeter := ⟨c, path⟩
  let table := MethodTable.single .get (m.exporter accounts)
  have added := built.faithful.add_plain absolute plain free.1 table
  let own : Route := ⟨path, Piece.plain (Text.bytes path), table⟩
  have alone : ∀ route ∈ ({ r with routes := r.routes ++ [own] }.wrap m.layer).routes,
      route.path = path → route = { own with table := table.wrap m.layer } := by
    intro route hr here
    obtain ⟨bare, member, rfl⟩ := List.mem_map.mp hr
    rcases List.mem_append.mp member with old | new
    · exact absurd here (free.1 bare old)
    · rw [List.mem_singleton] at new
      rw [new]
  have sent := ((built.add added).wrap m.layer).faithful.dispatches_iff
    (List.mem_map.mpr ⟨_, List.mem_append_right _ (List.mem_singleton.mpr rfl), rfl⟩) rfl alone
  refine ⟨_, RequestMeter.attach_eq_ok_iff.mpr ⟨valid, _, added, rfl⟩, ?_, sent, ?_⟩
  · intro route hr here
    rw [alone route hr here]
    rfl
  · intro request
    exact (Meter.skips_iff ⟨c, path⟩ request).trans (sent request.path).symm

/-! ## Paths with marks -/

theorem mem_split_head {c : Char} (h : c ≠ '/') (cs : List Char) :
    ∃ segment, c :: segment ∈ Text.split '/' (c :: cs) := by
  rw [Text.split, if_neg h]
  cases Text.split '/' cs with
  | nil => exact ⟨[], List.mem_cons_self⟩
  | cons first others => exact ⟨first, List.mem_cons_self⟩

/-- In the path of an exporter no mark follows a slash. -/
theorem isMark_after_slash {path : String} (valid : validPath path = true)
    {before after : List Char} {c : Char} (h : path.toList = before ++ '/' :: c :: after) :
    Piece.isMark c = false := by
  obtain ⟨cs, slashed, unmarked⟩ := (validPath_iff path).mp valid
  by_cases slash : c = '/'
  · rw [slash]
    rfl
  · obtain ⟨segment, member⟩ := mem_split_head slash after
    rw [slashed] at h
    cases before with
    | nil =>
        cases h
        exact unmarked _ member
    | cons d before =>
        simp only [List.cons_append, List.cons.injEq] at h
        rw [h.2, Text.split_append_cons] at unmarked
        exact unmarked _ (List.mem_append_right _ member)

/-- In the path of an exporter the first mark follows a character that is not a slash. -/
theorem exists_before_mark {path : String} (valid : validPath path = true)
    {before after : List Char} {c : Char} (hc : Piece.isMark c = true)
    (h : path.toList = before ++ c :: after) : ∃ start d, before = start ++ [d] ∧ d ≠ '/' := by
  rcases List.eq_nil_or_concat before with rfl | ⟨start, d, rfl⟩
  · obtain ⟨cs, slashed, -⟩ := (validPath_iff path).mp valid
    rw [slashed] at h
    cases h
    exact absurd hc (by decide)
  · refine ⟨start, d, List.concat_eq_append, ?_⟩
    rintro rfl
    rw [List.concat_eq_append, List.append_assoc] at h
    rw [isMark_after_slash valid h] at hc
    cases hc

theorem free_empty (path : String) : Router.FreeAt {} path := by
  refine ⟨fun route none => absurd none List.not_mem_nil, ?_⟩
  intro other h
  rcases Attempt.bind_eq_error_iff.mp h with unread | ⟨pattern, -, h⟩
  · exact Piece.readFrom_ne_conflict _ _ _ _ unread
  · rcases Attempt.bind_eq_error_iff.mp h with unfit | ⟨nothing, -, done⟩
    · rw [List.map_nil, Clash.check_nil, Clash.checkRests] at unfit
      split at unfit <;> cases unfit
    · cases done

/-- If the first capture of the only route is that of a segment, then a path that is found is also
found with another letter in place of the colon. -/
theorem Router.isSome_find?_other {r : Router} {route : Route} (only : r.routes = [route])
    {before after : List Char} {name : String} {more : List Piece}
    (pattern : route.pattern =
      Piece.plain (before.flatMap String.utf8EncodeChar) ++ .segment name :: more)
    (h : (r.find? (String.ofList (before ++ ':' :: after))).isSome = true) :
    (r.find? (String.ofList (before ++ 'x' :: after))).isSome = true := by
  rw [find?, Option.isSome_map, Text.bytes_ofList, List.flatMap_append, List.flatMap_cons, bundle,
    only, List.map_singleton, pattern] at h ⊢
  exact Bundle.find?_swap (by decide) (by decide) h

/-- In the path of an exporter a capture of the rest is within a segment, so it is refused. -/
theorem check_rest_within {path : String} (valid : validPath path = true)
    {before after : List Char} (h : path.toList = before ++ '*' :: after) (name : String)
    (more : List Piece) :
    Clash.check [] (Piece.plain (before.flatMap String.utf8EncodeChar) ++ .rest name :: more) =
      .error .misplacedRest := by
  obtain ⟨start, d, rfl, hd⟩ := exists_before_mark valid rfl h
  rcases List.eq_nil_or_concat (String.utf8EncodeChar d) with none | ⟨front, b, last⟩
  · exact absurd none String.utf8EncodeChar_ne_nil
  · have hb : b ≠ slash := by
      rintro rfl
      exact hd (slash_mem_utf8EncodeChar (by rw [last]; simp))
    have misplaced :=
      Piece.restsPlaced_within (start.flatMap String.utf8EncodeChar ++ front) hb name more
    rw [Clash.check_nil, Clash.checkRests, List.flatMap_append, List.flatMap_singleton, last,
      List.concat_eq_append, ← List.append_assoc, misplaced]
    rfl

/-- The exporter of a path with marks is out of reach, or does not have the path for itself. -/
theorem no_mark_of_exporterAlone {path : String} (valid : validPath path = true)
    (alone : ExporterAlone path) : path.toList.any Piece.isMark = false := by
  rw [Bool.eq_false_iff]
  intro marked
  obtain ⟨before, c, after, chars, hb, hc⟩ := Piece.exists_first_mark marked
  -- a router without other routes is enough
  obtain ⟨attached, done, -, sent, -⟩ :=
    alone {} .empty (free_empty path) ⟨0, "", "", "", ""⟩ none {}
  obtain ⟨-, added, hadd, rfl⟩ := RequestMeter.attach_eq_ok_iff.mp done
  obtain ⟨reached, captures, found, -⟩ := (sent path).mpr rfl
  rcases Router.add_cases hadd with ⟨before, old, joined, after, same, -⟩ | ⟨pattern, read, -, rfl⟩
  · exact absurd same (by simp)
  · obtain ⟨pieces, fits⟩ := Router.readPattern_eq_ok_iff.mp read
    rw [chars] at pieces
    obtain ⟨name, more, rfl⟩ := Piece.read_mark hb hc pieces
    by_cases star : c = '*'
    · subst star
      rw [if_pos rfl, List.map_nil, check_rest_within valid chars] at fits
      cases fits
    · -- the capture of a segment takes other text as well
      have colon : c = ':' := by simpa [Piece.isMark, star] using hc
      subst colon
      rw [if_neg star] at found sent
      have text : path = String.ofList (before ++ ':' :: after) := by
        rw [← chars, String.ofList_toList]
      subst text
      have other := Router.isSome_find?_other rfl rfl (Option.isSome_iff_exists.mpr ⟨_, found⟩)
      obtain ⟨⟨route, captures⟩, hit⟩ := Option.isSome_iff_exists.mp other
      obtain ⟨bare, member, rfl⟩ := List.mem_map.mp (Router.find?_mem hit)
      rw [List.nil_append, List.mem_singleton] at member
      subst member
      have equal := (sent _).mp ⟨_, captures, hit, rfl⟩
      rw [String.ofList_inj, List.append_cancel_left_eq, List.cons.injEq] at equal
      exact absurd equal.1 (by decide)

/-- The exporter has its path for itself if and only if the path has no mark. -/
theorem exporterAlone_iff {path : String} (valid : validPath path = true) :
    ExporterAlone path ↔ ':' ∉ path.toList ∧ '*' ∉ path.toList := by
  rw [← Piece.no_mark_iff]
  exact ⟨no_mark_of_exporterAlone valid, exporterAlone_of_no_mark valid⟩

theorem exporterAlone_metrics : validPath "/metrics" = true ∧ ExporterAlone "/metrics" :=
  ⟨by decide, (exporterAlone_iff (by decide)).mpr (by decide)⟩

/-- A colon at the end of a segment is refused by the router only. -/
theorem attach_unnamed :
    validPath "/x:" = true ∧
      (RequestMeter.attach ⟨Collectors.ofSubsystem 0 "s", "/x:"⟩ none {} {}).2 =
        .error (.route (.badPattern "/x:" .unnamed)) ∧
      ¬ ExporterAlone "/x:" := by
  refine ⟨by decide, ?_, ?_⟩
  · have begins : "/x:".startsWith "/" = true := String.startsWith_string_iff.mpr (by decide)
    have read : Router.readPattern {} "/x:" = .error .unnamed := rfl
    have refused : Router.add {} "/x:" (.single .get
        (RequestMeter.exporter ⟨Collectors.ofSubsystem 0 "s", "/x:"⟩ none)) =
        .error (.badPattern "/x:" .unnamed) := by
      rw [Router.add, begins, read]
      rfl
    rw [RequestMeter.attach, RequestMeter.mount, refused]
    rfl
  · intro alone
    exact absurd (no_mark_of_exporterAlone (by decide) alone) (by decide)

end TrafficMeter.Routing
