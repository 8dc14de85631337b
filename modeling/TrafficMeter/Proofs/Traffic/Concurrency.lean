import Mathlib.Data.List.Nodup
import Mathlib.Logic.Relation
import TrafficMeter.Proofs.Traffic.Counts
import TrafficMeter.Proofs.Traffic.Registration

/-!
# Observations at the same time

Nothing keeps two observations of a subsystem from running at the same time. Each is a sequence of
updates, and the updates of different observations follow each other in any order; a page that is
made in between shows observations that have come only part of the way. The series of the counter
is got, and created if need be, in one update and incremented in the next, so two observations may
both find that it does not exist yet.

What the families show depends only on how many updates each observation has made.

Main statement: `run_consistent`, how far the four families can be apart from each other, and that
they agree once no observation is in progress.
-/

namespace TrafficMeter

/-- The updates that a write is made of. The series of a counter is got first, which creates it if
need be, and then incremented; anything may come between the two. -/
def Metric.Write.updates : Metric.Write → List Metric.Write
  | .add key amount => [.add key 0, .add key amount]
  | w => [w]

namespace Traffic

open TrafficMeter.Metric (Registry Table Key Write)

variable {c : Collectors}

/-- The updates of an observation, in their order. -/
def Collectors.updates (c : Collectors) (o : Observation) : List Write :=
  (c.writes o).flatMap Write.updates

/-- An observation that was begun, and the number of updates that it has made. -/
structure Call where
  observation : Observation
  made : Nat := 0

/-- The update that an observation makes next, if it has not made all of them. -/
def Call.next? (c : Collectors) (call : Call) : Option Write :=
  (c.updates call.observation)[call.made]?

/-- A process with the observations of a subsystem that were begun. -/
structure Scene where
  telemetry : Telemetry
  calls : List Call := []

namespace Scene

/-- The number of observations that have not made all of their updates. -/
def inProgress (c : Collectors) (s : Scene) : Nat :=
  s.calls.countP fun call => (call.next? c).isSome

/-- The observations that have made all of their updates. -/
def completed (c : Collectors) (s : Scene) : List Observation :=
  (s.calls.filter fun call => (call.next? c).isNone).map (·.observation)

/-- One step of a process: an observation begins or makes its next update, or whatever else
happens, as long as the families are left alone. -/
inductive Step (c : Collectors) : Scene → Scene → Prop
  | begin (s : Scene) (o : Observation) :
      Step c s { s with calls := s.calls ++ [{ observation := o }] }
  | update (t : Telemetry) (before after : List Call) (call : Call) {w : Write}
      (next : call.next? c = some w) :
      Step c ⟨t, before ++ call :: after⟩
        ⟨t.write c.registry w, before ++ { call with made := call.made + 1 } :: after⟩
  | elsewhere (s : Scene) {t : Telemetry} (spared : c.readings? t = c.readings? s.telemetry) :
      Step c s { s with telemetry := t }

/-- Any number of steps. -/
abbrev Run (c : Collectors) : Scene → Scene → Prop := Relation.ReflTransGen (Step c)

/-- Making a page is a step. -/
theorem Step.page (s : Scene) (id : RegistryId) :
    Step c s { s with telemetry := s.telemetry.tally id } :=
  .elsewhere s (Collectors.readings?_tally s.telemetry id)

/-! ## An observation on its own -/

theorem alter_alter (k : Key) (t : Table UInt64) :
    Table.alter 0 (· + 1) k (Table.alter 0 (· + 0) k t) = Table.alter 0 (· + 1) k t := by
  induction t with
  | nil => simp [Table.alter]
  | cons e rest ih =>
      obtain ⟨other, v⟩ := e
      by_cases same : other = k
      · simp [Table.alter, same]
      · simp only [Table.alter, same, if_false, ih]

/-- Getting a series before it is incremented cannot be told from incrementing it. -/
theorem write_add (t : Telemetry) (id : RegistryId) (k : Key) :
    (t.write id (.add k 0)).write id (.add k 1) = t.write id (.add k 1) := by
  have registries : ((t.write id (.add k 0)).write id (.add k 1)).registries =
      (t.write id (.add k 1)).registries := by
    apply List.ext_getElem?
    intro place
    simp only [Telemetry.registries_write]
    split
    · rw [Option.map_map]
      congr 1
      funext r
      simp only [Function.comp_apply, Registry.apply, alter_alter]
    · rfl
  exact congrArg (fun registries => { t with registries }) registries

/-- An observation that nothing comes between is a run that makes all of its updates. -/
theorem run_observe (s : Scene) (o : Observation) :
    Run c s ⟨Collectors.observe s.telemetry c o, s.calls ++ [⟨o, (c.updates o).length⟩]⟩ := by
  have all : Collectors.observe s.telemetry c o =
      (c.updates o).foldl (fun t w => t.write c.registry w) s.telemetry :=
    (write_add _ c.registry _).symm
  rw [all]
  refine (Relation.ReflTransGen.refl.tail (.begin s o)).trans ?_
  have next : ∀ (made : Nat) (w : Write) (t : Telemetry), (c.updates o)[made]? = some w →
      Step c ⟨t, s.calls ++ [⟨o, made⟩]⟩ ⟨t.write c.registry w, s.calls ++ [⟨o, made + 1⟩]⟩ :=
    fun made w t found => .update t s.calls [] ⟨o, made⟩ found
  exact ((((Relation.ReflTransGen.refl.tail (next 0 _ _ rfl)).tail (next 1 _ _ rfl)).tail
    (next 2 _ _ rfl)).tail (next 3 _ _ rfl)).tail (next 4 _ _ rfl)

/-! ## What is shown of observations that have come part of the way -/

/-- The observations that have made at least so many updates. -/
def past (s : Scene) (k : Nat) : Multiset Observation :=
  ((s.calls.filter (k ≤ ·.made)).map (·.observation) : List Observation)

theorem past_anti (s : Scene) {j k : Nat} (h : j ≤ k) : s.past k ≤ s.past j := by
  refine Multiset.coe_le.mpr (List.Sublist.subperm (List.Sublist.map _ ?_))
  have both : s.calls.filter (k ≤ ·.made) = (s.calls.filter (j ≤ ·.made)).filter (k ≤ ·.made) := by
    rw [List.filter_filter]
    congr 1
    funext call
    simp only [← Bool.decide_and, decide_eq_decide]
    omega
  rw [both]
  exact List.filter_sublist

theorem mem_past {s : Scene} {call : Call} (member : call ∈ s.calls) {k : Nat}
    (h : k ≤ call.made) : call.observation ∈ s.past k :=
  List.mem_map.mpr ⟨call, List.mem_filter.mpr ⟨member, by simpa using h⟩, rfl⟩

/-- An observation that has made no update yet is not past any. -/
theorem past_begin (s : Scene) (o : Observation) (k : Nat) :
    past { s with calls := s.calls ++ [{ observation := o }] } (k + 1) = s.past (k + 1) := by
  simp [past]

/-- An update takes one observation past it. -/
theorem past_update (t u : Telemetry) (before after : List Call) (call : Call) :
    past ⟨u, before ++ { call with made := call.made + 1 } :: after⟩ =
      Function.update (past ⟨t, before ++ call :: after⟩) (call.made + 1)
        (call.observation ::ₘ past ⟨t, before ++ call :: after⟩ (call.made + 1)) := by
  funext k
  by_cases here : k = call.made + 1
  · subst here
    simp [past, Function.update_self]
  · have still : (k ≤ call.made + 1) = (k ≤ call.made) := by
      simp only [eq_iff_iff]
      omega
    rw [Function.update_of_ne here]
    by_cases been : k ≤ call.made <;> simp [past, still, been]

end Scene

/-- The series that an observation increments. -/
def Collectors.series (c : Collectors) (o : Observation) : Key := ⟨c.requests, labels o⟩

/-- Series of which some were got and some were incremented: a series exists once it was got. -/
structure Counted (got counted : Multiset Key) (t : Table UInt64) : Prop where
  series : ∀ k, Table.find? t k =
    if k ∈ got then some (UInt64.ofNat (counted.count k)) else none
  bounded : Table.total t ≤ counted.card
  total : Table.total t % 2 ^ 64 = counted.card % 2 ^ 64

/-- Whoever gets a series second finds it as the first one left it. -/
theorem Counted.get {got counted : Multiset Key} {t : Table UInt64} (h : Counted got counted t)
    (later : counted ≤ got) (key : Key) :
    Counted (key ::ₘ got) counted (Table.alter 0 (· + 0) key t) where
  series := by
    intro k
    rw [Table.find?_alter, h.series, h.series]
    by_cases same : k = key
    · subst same
      rw [if_pos rfl, if_pos (Multiset.mem_cons_self k got)]
      split
      · simp
      · next new =>
          rw [Multiset.count_eq_zero_of_notMem fun member => new (Multiset.mem_of_le later member)]
          rfl
    · simp [same]
  bounded := by
    rw [Table.total_alter_zero]
    exact h.bounded
  total := by
    rw [Table.total_alter_zero]
    exact h.total

theorem Counted.increment {got counted : Multiset Key} {t : Table UInt64}
    (h : Counted got counted t) {key : Key} (member : key ∈ got) :
    Counted got (key ::ₘ counted) (Table.alter 0 (· + 1) key t) where
  series := by
    intro k
    rw [Table.find?_alter, h.series, h.series, if_pos member]
    by_cases same : k = key
    · subst same
      rw [if_pos rfl, if_pos member, Multiset.count_cons_self, UInt64.ofNat_add]
      rfl
    · rw [if_neg same, Multiset.count_cons_of_ne same]
  bounded := by
    have more := Table.total_alter_le key t
    have bounded := h.bounded
    rw [Multiset.card_cons]
    omega
  total := by
    have more := Table.total_alter key t
    have total := h.total
    rw [Multiset.card_cons]
    omega

/-- Readings that show observations as far as they have come: `past k` have made their first `k`
updates. -/
structure Readings.Partial (c : Collectors) (past : Nat → Multiset Observation) (rd : Readings) :
    Prop where
  durations : rd.durations = (past 1).map (·.elapsed)
  requestSizes : rd.requestSizes = (past 2).map (·.requestSize.toFloat)
  responseSizes : rd.responseSizes = (past 3).map (·.responseSize.toFloat)
  requests : Counted ((past 4).map c.series) ((past 5).map c.series) rd.requests

namespace Readings.Partial

variable {past : Nat → Multiset Observation} {rd : Readings}

/-- Nothing is shown before an observation has begun. -/
theorem none (c : Collectors) : Readings.Partial c (fun _ => 0) {} where
  durations := rfl
  requestSizes := rfl
  responseSizes := rfl
  requests := ⟨by simp [Table.find?], by simp [Table.total], by simp [Table.total]⟩

/-- An update shows its observation as having come one update further. -/
theorem update (distinct : c.names.Nodup) (shown : rd.Partial c past) (later : past 5 ≤ past 4)
    {o : Observation} {k : Nat} (been : k = 4 → o ∈ past 4) {w : Write}
    (next : (c.updates o)[k]? = some w) :
    (rd.write c w).Partial c (Function.update past (k + 1) (o ::ₘ past (k + 1))) := by
  simp only [Collectors.names, List.nodup_cons, List.mem_cons, List.not_mem_nil, or_false,
    not_or] at distinct
  obtain ⟨-, ⟨hdq, hds⟩, hqs, -⟩ := distinct
  obtain ⟨durations, requestSizes, responseSizes, requests⟩ := shown
  have add : ∀ (s : Multiset Float) (v : Float), s + {v} = v ::ₘ s := by
    intro s v
    rw [Multiset.add_comm, Multiset.singleton_add]
  rcases k with _ | _ | _ | _ | _ | k
  · obtain rfl : _ = w := Option.some.inj next
    have wrote : rd.write c (.sample ⟨c.duration, []⟩ [o.elapsed]) =
        { rd with durations := o.elapsed ::ₘ rd.durations } := by
      simp [Readings.write, add, Ne.symm hdq, Ne.symm hds]
    rw [wrote]
    exact ⟨by simp [durations], requestSizes, responseSizes, requests⟩
  · obtain rfl : _ = w := Option.some.inj next
    have wrote : rd.write c (.sample ⟨c.requestSize, []⟩ [o.requestSize.toFloat]) =
        { rd with requestSizes := o.requestSize.toFloat ::ₘ rd.requestSizes } := by
      simp [Readings.write, add, hdq, Ne.symm hqs]
    rw [wrote]
    exact ⟨durations, by simp [requestSizes], responseSizes, requests⟩
  · obtain rfl : _ = w := Option.some.inj next
    have wrote : rd.write c (.sample ⟨c.responseSize, []⟩ [o.responseSize.toFloat]) =
        { rd with responseSizes := o.responseSize.toFloat ::ₘ rd.responseSizes } := by
      simp [Readings.write, add, hds, hqs]
    rw [wrote]
    exact ⟨durations, requestSizes, by simp [responseSizes], requests⟩
  · obtain rfl : _ = w := Option.some.inj next
    have wrote : rd.write c (.add (c.series o) 0) =
        { rd with requests := Table.alter 0 (· + 0) (c.series o) rd.requests } := by
      simp [Readings.write, Collectors.series]
    have got := requests.get (Multiset.map_le_map later) (c.series o)
    change (rd.write c (.add (c.series o) 0)).Partial c _
    rw [wrote]
    exact ⟨durations, requestSizes, responseSizes, by simpa using got⟩
  · obtain rfl : _ = w := Option.some.inj next
    have wrote : rd.write c (.add (c.series o) 1) =
        { rd with requests := Table.alter 0 (· + 1) (c.series o) rd.requests } := by
      simp [Readings.write, Collectors.series]
    have counted := requests.increment (Multiset.mem_map_of_mem c.series (been rfl))
    change (rd.write c (.add (c.series o) 1)).Partial c _
    rw [wrote]
    exact ⟨durations, requestSizes, responseSizes, by simpa using counted⟩
  · cases next

end Readings.Partial

namespace Scene

/-- What the families show is how far each observation has come. -/
def Shown (c : Collectors) (s : Scene) : Prop :=
  ∃ rd, c.readings? s.telemetry = some rd ∧ rd.Partial c s.past

theorem step_shown (distinct : c.names.Nodup) {s next : Scene} (step : Step c s next)
    (shown : s.Shown c) : next.Shown c := by
  obtain ⟨rd, read, shown⟩ := shown
  cases step with
  | begin _ o =>
      have still : ∀ k, past { s with calls := s.calls ++ [{ observation := o }] } (k + 1) =
          s.past (k + 1) := s.past_begin o
      refine ⟨rd, read, ?_⟩
      constructor
      · rw [still]
        exact shown.durations
      · rw [still]
        exact shown.requestSizes
      · rw [still]
        exact shown.responseSizes
      · rw [still, still]
        exact shown.requests
  | update t before after call next =>
      refine ⟨_, Collectors.readings?_own_write read _, ?_⟩
      rw [past_update t]
      refine shown.update distinct (past_anti _ (by decide)) ?_ next
      intro four
      exact mem_past (by simp) four.ge
  | elsewhere _ spared => exact ⟨rd, spared.trans read, shown⟩

/-- What the families show at any moment. -/
structure Consistent (c : Collectors) (s : Scene) (rd : Readings) : Prop where
  requestSizes : rd.requestSizes.card ≤ rd.durations.card
  responseSizes : rd.responseSizes.card ≤ rd.requestSizes.card
  requests : Table.total rd.requests ≤ rd.responseSizes.card
  /-- Below the point where counters wrap around, the first family is ahead of the last by the
  observations in progress at most. -/
  ahead : (s.completed c).length < 2 ^ 64 →
    rd.durations.card ≤ Table.total rd.requests + s.inProgress c
  /-- When no observation is in progress, the four families agree. -/
  settled : s.inProgress c = 0 →
    rd.durations.card = (s.completed c).length ∧ rd.requestSizes.card = (s.completed c).length ∧
      rd.responseSizes.card = (s.completed c).length ∧
      ((s.completed c).length < 2 ^ 64 → Table.total rd.requests = (s.completed c).length) ∧
      ∀ status method path, Table.find? rd.requests (c.seriesOf status method path) =
        if (s.completed c).countP (Observation.Of status method path) = 0 then none
        else some (UInt64.ofNat ((s.completed c).countP (Observation.Of status method path)))

theorem run_shown (distinct : c.names.Nodup) {s next : Scene} (run : Run c s next)
    (shown : s.Shown c) : next.Shown c := by
  induction run with
  | refl => exact shown
  | tail _ step ih => exact step_shown distinct step ih

theorem next?_isNone (call : Call) : (call.next? c).isNone = decide (5 ≤ call.made) := by
  rw [Call.next?, Bool.eq_iff_iff, Option.isNone_iff_eq_none, List.getElem?_eq_none_iff,
    decide_eq_true_iff]
  rfl

theorem past_completed (c : Collectors) (s : Scene) : s.past 5 = (s.completed c : Multiset _) := by
  simp only [past, completed, next?_isNone]

/-- An observation is completed or in progress. -/
theorem length_calls (c : Collectors) (s : Scene) :
    s.calls.length = (s.past 5).card + s.inProgress c := by
  rw [past_completed c, completed, Multiset.coe_card, List.length_map,
    ← List.countP_eq_length_filter, inProgress,
    s.calls.length_eq_countP_add_countP fun call => (call.next? c).isNone]
  congr 2
  funext call
  cases call.next? c <;> rfl

theorem card_past_le (s : Scene) (k : Nat) : (s.past k).card ≤ s.calls.length := by
  rw [past, Multiset.coe_card, List.length_map]
  exact List.length_filter_le ..

/-- The series of observations are found by their status code, method and path. -/
theorem count_series (c : Collectors) (os : List Observation) (status : Nat)
    (method path : String) :
    ((os : Multiset Observation).map c.series).count (c.seriesOf status method path) =
      os.countP (Observation.Of status method path) := by
  rw [Multiset.map_coe, Multiset.coe_count, List.count_eq_countP, List.countP_map]
  congr 1
  funext o
  simp only [Function.comp_apply, beq_eq_decide, Collectors.series, Collectors.labels_eq_iff]

theorem consistent_of_partial {s : Scene} {rd : Readings} (shown : rd.Partial c s.past) :
    s.Consistent c rd := by
  have durations : rd.durations.card = (s.past 1).card := by
    rw [shown.durations, Multiset.card_map]
  have requestSizes : rd.requestSizes.card = (s.past 2).card := by
    rw [shown.requestSizes, Multiset.card_map]
  have responseSizes : rd.responseSizes.card = (s.past 3).card := by
    rw [shown.responseSizes, Multiset.card_map]
  have requests := shown.requests.bounded
  have wrapped := shown.requests.total
  have completed : (s.past 5).card = (s.completed c).length := by
    rw [past_completed c, Multiset.coe_card]
  rw [Multiset.card_map] at requests wrapped
  have order : ∀ {j k}, j ≤ k → (s.past k).card ≤ (s.past j).card :=
    fun h => Multiset.card_le_card (s.past_anti h)
  have all := s.length_calls c
  have most := s.card_past_le 1
  have second := order (show 1 ≤ 2 by decide)
  have third := order (show 2 ≤ 3 by decide)
  have fifth := order (show 3 ≤ 5 by decide)
  refine ⟨by omega, by omega, by omega, fun small => by omega, ?_⟩
  intro idle
  refine ⟨by omega, by omega, by omega, fun small => by omega, ?_⟩
  intro status method path
  -- with no observation in progress, all that got a series have incremented it
  have same : s.past 4 = s.past 5 := by
    have fourth := s.card_past_le 4
    exact (Multiset.eq_of_le_of_card_le (s.past_anti (by decide)) (by omega)).symm
  have exists_iff : c.seriesOf status method path ∈ (s.past 5).map c.series ↔
      (s.completed c).countP (Observation.Of status method path) ≠ 0 := by
    rw [← Multiset.one_le_count_iff_mem, past_completed c, count_series, Nat.one_le_iff_ne_zero]
  rw [shown.requests.series, same]
  by_cases unseen : (s.completed c).countP (Observation.Of status method path) = 0
  · rw [if_pos unseen, if_neg (fun found => exists_iff.mp found unseen)]
  · rw [if_neg unseen, if_pos (exists_iff.mpr unseen), past_completed c, count_series]

/-- At any moment of any number of observations of a subsystem, the families are as far apart as
the observations in progress, and they agree when there are none. -/
theorem run_consistent {t : Telemetry} {id : RegistryId} {subsystem : String}
    (start : (Collectors.ofSubsystem id subsystem).readings? t = some {}) {s : Scene}
    (run : Run (Collectors.ofSubsystem id subsystem) ⟨t, []⟩ s) :
    ∃ rd, (Collectors.ofSubsystem id subsystem).readings? s.telemetry = some rd ∧
      s.Consistent (Collectors.ofSubsystem id subsystem) rd := by
  have distinct : (Collectors.ofSubsystem id subsystem).names.Nodup :=
    Collectors.distinct_claims id subsystem
  obtain ⟨rd, read, shown⟩ := run_shown distinct run ⟨{}, start, Readings.Partial.none _⟩
  exact ⟨rd, read, consistent_of_partial shown⟩

/-- Two requests of one series whose observations both get the series before one increments it. -/
theorem run_consistent_contended :
    ∃ (t : Telemetry) (s : Scene),
      (Collectors.ofSubsystem 0 "http").readings? t = some {} ∧
        Run (Collectors.ofSubsystem 0 "http") ⟨t, []⟩ s ∧ s.calls.map (·.made) = [4, 5] ∧
        ∃ rd, (Collectors.ofSubsystem 0 "http").readings? s.telemetry = some rd ∧
          s.Consistent (Collectors.ofSubsystem 0 "http") rd := by
  let c := Collectors.ofSubsystem 0 "http"
  let t : Telemetry := { registries := [enrolAll Registry.empty c.claims] }
  have start : c.readings? t = some {} := by
    have only : t.registries[c.registry]? = some (enrolAll Registry.empty c.claims) := rfl
    rw [Collectors.readings?, only, Option.bind_some]
    exact Collectors.readingsIn_enrolAll rfl rfl 0 "http"
  let o : Observation := ⟨200, "GET", "/", 1, 2, 3⟩
  have first : ∀ (made other : Nat) {w : Write} (t : Telemetry), (c.updates o)[made]? = some w →
      Step c ⟨t, [⟨o, made⟩, ⟨o, other⟩]⟩ ⟨t.write c.registry w, [⟨o, made + 1⟩, ⟨o, other⟩]⟩ :=
    fun made other _ t next => .update t [] [⟨o, other⟩] ⟨o, made⟩ next
  have second : ∀ (made other : Nat) {w : Write} (t : Telemetry), (c.updates o)[made]? = some w →
      Step c ⟨t, [⟨o, other⟩, ⟨o, made⟩]⟩ ⟨t.write c.registry w, [⟨o, other⟩, ⟨o, made + 1⟩]⟩ :=
    fun made other _ t next => .update t [⟨o, other⟩] [] ⟨o, made⟩ next
  have begun : Run c ⟨t, []⟩ ⟨t, [⟨o, 0⟩, ⟨o, 0⟩]⟩ :=
    (Relation.ReflTransGen.refl.tail (.begin _ o)).tail (.begin _ o)
  have sampled := (((((begun.tail (first 0 0 _ rfl)).tail (second 0 1 _ rfl)).tail
    (first 1 1 _ rfl)).tail (first 2 1 _ rfl)).tail (second 1 3 _ rfl)).tail (second 2 3 _ rfl)
  have run := ((sampled.tail (first 3 3 _ rfl)).tail (second 3 4 _ rfl)).tail (second 4 4 _ rfl)
  exact ⟨t, _, start, run, rfl, run_consistent start run⟩

end Scene

end Traffic

end TrafficMeter
