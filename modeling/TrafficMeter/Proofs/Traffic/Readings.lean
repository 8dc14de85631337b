import Mathlib.Data.Multiset.MapFold
import TrafficMeter.Proofs.Metric.Tables
import TrafficMeter.Traffic.Response

/-!
# What the families of a subsystem show

The readings of a subsystem are its part of a registry: the series of its counter and the samples
of its three summaries. Samples are a multiset, because making a page changes their order. A write
elsewhere leaves the readings as they are, and an observation of the subsystem adds to each of the
four families.

Main statement: `readings?_settle`, that requests that are done change the readings by their own
observations and by nothing else.
-/

namespace TrafficMeter.Traffic

open TrafficMeter.Metric (Registry Table Key Samples Write)

/-- The samples of a summary without labels, if it exists. -/
def samples? (r : Registry) (name : String) : Option (Multiset Float) :=
  (Table.find? r.summaries ⟨name, []⟩).map fun s => (s.toList : Multiset Float)

/-- What the four families of a subsystem show. -/
structure Readings where
  /-- The series of the counter of requests. -/
  requests : Table UInt64 := []
  durations : Multiset Float := 0
  requestSizes : Multiset Float := 0
  responseSizes : Multiset Float := 0

/-- One more request was observed. -/
def Readings.observe (c : Collectors) (rd : Readings) (o : Observation) : Readings :=
  { requests := Table.alter 0 (· + 1) ⟨c.requests, Collectors.labels o⟩ rd.requests
    durations := o.elapsed ::ₘ rd.durations
    requestSizes := o.requestSize.toFloat ::ₘ rd.requestSizes
    responseSizes := o.responseSize.toFloat ::ₘ rd.responseSizes }

/-- A write was carried out, wherever it went. -/
def Readings.write (c : Collectors) (rd : Readings) : Write → Readings
  | .add k amount =>
      { rd with requests :=
          if k.name = c.requests then Table.alter 0 (· + amount) k rd.requests else rd.requests }
  | .raise k value =>
      { rd with requests :=
          if k.name = c.requests then Table.alter 0 (max · value) k rd.requests else rd.requests }
  | .sample k values =>
      { rd with
        durations := if ⟨c.duration, []⟩ = k then rd.durations + values else rd.durations
        requestSizes :=
          if ⟨c.requestSize, []⟩ = k then rd.requestSizes + values else rd.requestSizes
        responseSizes :=
          if ⟨c.responseSize, []⟩ = k then rd.responseSizes + values else rd.responseSizes }
  | .describe _ _ | .setGauge _ _ | .shiftGauge _ _ => rd

namespace Collectors

/-- The names of the four families. -/
def names (c : Collectors) : List String :=
  [c.requests, c.duration, c.requestSize, c.responseSize]

/-- What a registry shows of the families, once the summaries exist. -/
def readingsIn (c : Collectors) (r : Registry) : Option Readings := do
  let durations ← samples? r c.duration
  let requestSizes ← samples? r c.requestSize
  let responseSizes ← samples? r c.responseSize
  some { requests := r.counters.filter (·.1.name = c.requests)
         durations, requestSizes, responseSizes }

/-- What the families show. -/
def readings? (c : Collectors) (t : Telemetry) : Option Readings :=
  (t.registries[c.registry]?).bind c.readingsIn

/-- No family of one is a family of the other. -/
def Apart (c d : Collectors) : Prop :=
  c.registry = d.registry → ∀ name ∈ c.names, name ∉ d.names

/-- A write that goes to none of the families. -/
def SparedBy (c : Collectors) (w : Write) : Prop :=
  ∀ name, w.seriesName? = some name → name ∉ c.names

end Collectors

/-- An observation is its four writes. -/
theorem Readings.foldl_writes {c : Collectors} (distinct : c.names.Nodup) (rd : Readings)
    (o : Observation) : (c.writes o).foldl (Readings.write c) rd = rd.observe c o := by
  simp only [Collectors.names, List.nodup_cons, List.mem_cons, List.not_mem_nil, or_false,
    not_or] at distinct
  obtain ⟨-, ⟨hdq, hds⟩, hqs, -⟩ := distinct
  have add : ∀ (s : Multiset Float) (v : Float), s + {v} = v ::ₘ s := by
    intro s v
    rw [Multiset.add_comm, Multiset.singleton_add]
  simp [Collectors.writes, Readings.write, Readings.observe, add, hdq, hds, hqs, Ne.symm hdq,
    Ne.symm hds, Ne.symm hqs]

theorem samples?_sample (r : Registry) (k : Key) (values : List Float) (name : String) :
    samples? (r.apply (.sample k values)) name =
      if (⟨name, []⟩ : Key) = k then some ((samples? r name).getD 0 + values)
      else samples? r name := by
  have sum : ∀ s : Samples, ((s.add values).toList : Multiset Float) = s.toList + values := by
    intro s
    have h := (s.add values).toList_perm.trans
      ((List.append_assoc ..).symm ▸ s.toList_perm.symm.append_right values)
    exact (Multiset.coe_eq_coe.mpr h).trans (Multiset.coe_add ..).symm
  simp only [samples?, Registry.apply, Table.find?_alter]
  by_cases h : (⟨name, []⟩ : Key) = k
  · subst h
    rw [if_pos rfl, if_pos rfl, Option.map_some, sum]
    cases Table.find? r.summaries ⟨name, []⟩ with
    | none => simp [Samples.toList]
    | some s => rfl
  · rw [if_neg h, if_neg h]

theorem samples?_tally (r : Registry) (name : String) :
    samples? r.tally name = samples? r name := by
  simp only [samples?, Registry.tally, Table.find?_map, Option.map_map]
  congr 1
  funext s
  simp

namespace Collectors

variable {c : Collectors}

/-- Making a page changes no reading. -/
theorem readingsIn_tally (c : Collectors) (r : Registry) :
    c.readingsIn r.tally = c.readingsIn r := by
  simp only [readingsIn, samples?_tally]
  rfl

/-- A write elsewhere changes no reading. -/
theorem readingsIn_apply_of_spared {w : Write} (h : c.SparedBy w) (r : Registry) :
    c.readingsIn (r.apply w) = c.readingsIn r := by
  have other : ∀ k : Key, w.seriesName? = some k.name → ∀ name ∈ c.names, k.name ≠ name := by
    intro k hk name member equal
    exact h k.name hk (equal ▸ member)
  cases w with
  | describe name help =>
      simp only [Registry.apply, Registry.describe]
      split <;> rfl
  | add k amount | raise k value =>
      have hk := other k rfl c.requests (by simp [names])
      simp only [readingsIn, Registry.apply, Table.filter_alter_of_ne hk]
      rfl
  | setGauge k value | shiftGauge k amount => rfl
  | sample k values =>
      have hk : ∀ name ∈ c.names, (⟨name, []⟩ : Key) ≠ k := by
        rintro name member rfl
        exact other _ rfl name member rfl
      simp only [readingsIn, samples?_sample]
      rw [if_neg (hk _ (by simp [names])), if_neg (hk _ (by simp [names])),
        if_neg (hk _ (by simp [names]))]
      rfl

theorem readingsIn_applyAll_of_spared {ws : List Write} (h : ∀ w ∈ ws, c.SparedBy w)
    (r : Registry) : c.readingsIn (r.applyAll ws) = c.readingsIn r := by
  induction ws generalizing r with
  | nil => rfl
  | cons w ws ih =>
      have hw := h w List.mem_cons_self
      have hr := ih (fun v hv => h v (List.mem_cons_of_mem _ hv)) (r.apply w)
      exact hr.trans (readingsIn_apply_of_spared hw r)

theorem readingsIn_eq_some {r : Registry} {rd : Readings} :
    c.readingsIn r = some rd ↔
      samples? r c.duration = some rd.durations ∧ samples? r c.requestSize = some rd.requestSizes ∧
        samples? r c.responseSize = some rd.responseSizes ∧
        r.counters.filter (·.1.name = c.requests) = rd.requests := by
  simp only [readingsIn, Option.bind_eq_bind, Option.bind_eq_some_iff, Option.some.injEq]
  constructor
  · rintro ⟨durations, hd, requestSizes, hq, responseSizes, hs, rfl⟩
    exact ⟨hd, hq, hs, rfl⟩
  · rintro ⟨hd, hq, hs, hr⟩
    exact ⟨_, hd, _, hq, _, hs, by rw [hr]⟩

/-- A write changes the readings as it says. -/
theorem readingsIn_apply {r : Registry} {rd : Readings} (h : c.readingsIn r = some rd)
    (w : Write) : c.readingsIn (r.apply w) = some (rd.write c w) := by
  obtain ⟨hd, hq, hs, hr⟩ := readingsIn_eq_some.mp h
  have table : ∀ (change : UInt64 → UInt64) (k : Key),
      (Table.alter 0 change k r.counters).filter (·.1.name = c.requests) =
        if k.name = c.requests then Table.alter 0 change k rd.requests else rd.requests := by
    intro change k
    split
    · next own => rw [Table.filter_alter_of_eq own, hr]
    · next other => rw [Table.filter_alter_of_ne other, hr]
  cases w with
  | describe name help =>
      rw [readingsIn_apply_of_spared (fun name named => by cases named), h]
      rfl
  | setGauge k value | shiftGauge k amount => exact h
  | add k amount | raise k value => exact readingsIn_eq_some.mpr ⟨hd, hq, hs, table _ k⟩
  | sample k values =>
      have taken : ∀ {name : String} {s : Multiset Float}, samples? r name = some s →
          samples? (r.apply (.sample k values)) name =
            some (if (⟨name, []⟩ : Key) = k then s + values else s) := by
        intro name s shown
        rw [samples?_sample, shown]
        split <;> rfl
      exact readingsIn_eq_some.mpr ⟨taken hd, taken hq, taken hs, hr⟩

/-- Writes change the readings as they say, one after the other. -/
theorem readingsIn_applyAll (ws : List Write) {r : Registry} {rd : Readings}
    (h : c.readingsIn r = some rd) :
    c.readingsIn (r.applyAll ws) = some (ws.foldl (Readings.write c) rd) := by
  induction ws generalizing r rd with
  | nil => exact h
  | cons w ws ih => exact ih (readingsIn_apply h w)

/-- An observation adds to each of the four families. -/
theorem readingsIn_writes (distinct : c.names.Nodup) {r : Registry} {rd : Readings}
    (h : c.readingsIn r = some rd) (o : Observation) :
    c.readingsIn (r.applyAll (c.writes o)) = some (rd.observe c o) := by
  rw [readingsIn_applyAll (c.writes o) h, Readings.foldl_writes distinct]

end Collectors

/-! ## Readings of a process -/

namespace Telemetry

/-- Changing the registry at a place changes no other. -/
theorem registries_set (t : Telemetry) (id place : RegistryId) (f : Registry → Registry) :
    (t.setRegistry id (f (t.registry id))).registries[place]? =
      if place = id then (t.registries[place]?).map f else t.registries[place]? := by
  simp only [setRegistry, List.getElem?_set, registry]
  by_cases h : id = place
  · subst h
    by_cases inside : id < t.registries.length
    · simp [inside]
    · simp [inside]
  · simp [h, Ne.symm h]

theorem registries_write (t : Telemetry) (id place : RegistryId) (w : Write) :
    (t.write id w).registries[place]? =
      if place = id then (t.registries[place]?).map (·.apply w) else t.registries[place]? :=
  registries_set t id place (·.apply w)

theorem registries_writes (ws : List Write) (t : Telemetry) (id place : RegistryId) :
    (ws.foldl (fun t w => t.write id w) t).registries[place]? =
      if place = id then (t.registries[place]?).map (·.applyAll ws)
      else t.registries[place]? := by
  induction ws generalizing t with
  | nil => simp [Registry.applyAll]
  | cons w ws ih =>
      rw [List.foldl_cons, ih, registries_write]
      by_cases h : place = id
      · simp only [h, if_true, Option.map_map]
        rfl
      · simp only [h, if_false]

/-- No write changes which registry records for the process. -/
theorem recorder_emit (t : Telemetry) (w : Write) : (t.emit w).recorder = t.recorder := by
  rw [emit]
  split
  · rw [record]
    split
    · split <;> rfl
    · rfl
  · rfl

end Telemetry

namespace Collectors

variable {c : Collectors} {t : Telemetry}

theorem readings?_congr {u : Telemetry} (h : u.registries = t.registries) :
    c.readings? u = c.readings? t := by
  rw [readings?, readings?, h]

theorem readings?_tally (t : Telemetry) (id : RegistryId) :
    c.readings? (t.tally id) = c.readings? t := by
  rw [readings?, readings?, Telemetry.tally,
    Telemetry.registries_set t id c.registry Registry.tally]
  by_cases own : c.registry = id
  · rw [if_pos own, Option.bind_map]
    congr 1
    funext r
    exact readingsIn_tally c r
  · rw [if_neg own]

theorem readings?_own_write {rd : Readings} (h : c.readings? t = some rd) (w : Write) :
    c.readings? (t.write c.registry w) = some (rd.write c w) := by
  obtain ⟨r, hr, hrd⟩ := Option.bind_eq_some_iff.mp h
  rw [readings?, Telemetry.registries_write, if_pos rfl, hr]
  exact readingsIn_apply hrd w

/-- Observations of other families in the same registry spare the families. -/
theorem sparedBy_writes {d : Collectors} (h : d.Apart c) (same : d.registry = c.registry)
    (o : Observation) : ∀ w ∈ d.writes o, c.SparedBy w := by
  intro w hw name named member
  refine h same name ?_ member
  simp only [writes, List.mem_cons, List.not_mem_nil, or_false] at hw
  rcases hw with rfl | rfl | rfl | rfl <;>
    · cases named
      simp [names]

/-- Observations of other families change no reading. -/
theorem readings?_observe_of_apart {d : Collectors} (h : d.Apart c) (o : Observation) :
    c.readings? (observe t d o) = c.readings? t := by
  rw [readings?, readings?, observe, Telemetry.registries_writes]
  by_cases same : c.registry = d.registry
  · rw [if_pos same, Option.bind_map]
    congr 1
    funext r
    exact readingsIn_applyAll_of_spared (sparedBy_writes h same.symm o) r
  · rw [if_neg same]

theorem readings?_observe (distinct : c.names.Nodup) {rd : Readings}
    (h : c.readings? t = some rd) (o : Observation) :
    c.readings? (observe t c o) = some (rd.observe c o) := by
  obtain ⟨r, hr, hrd⟩ := Option.bind_eq_some_iff.mp h
  rw [readings?, observe, Telemetry.registries_writes, if_pos rfl, hr]
  exact readingsIn_writes distinct hrd o

/-- The observations among requests that are done that are meant for the families. -/
def due (c : Collectors) (done : List Pending) : List Observation :=
  (done.filter (·.collectors = c)).map (·.observation)

/-- Requests that are done change the readings by their own observations and by nothing else. -/
theorem readings?_settle (distinct : c.names.Nodup) {done : List Pending}
    (others : ∀ q ∈ done, q.collectors = c ∨ q.collectors.Apart c) {rd : Readings}
    (h : c.readings? t = some rd) :
    c.readings? (t.settle done) = some ((c.due done).foldl (Readings.observe c) rd) := by
  induction done generalizing t rd with
  | nil => exact h
  | cons q done ih =>
      have rest := fun p hp => others p (List.mem_cons_of_mem q hp)
      let noted := t.note (.requestRecorded q.observation.status q.observation.method
        q.observation.path q.observation.responseSize)
      have hn : c.readings? noted = some rd := h
      have unfolded : t.settle (q :: done) =
          (observe noted q.collectors q.observation).settle done := rfl
      by_cases own : q.collectors = c
      · have step := readings?_observe distinct hn q.observation
        rw [unfolded, own, due, List.filter_cons, if_pos (by simpa using own)]
        exact ih rest step
      · have apart := (others q List.mem_cons_self).resolve_left own
        have step := (readings?_observe_of_apart apart q.observation).trans hn
        rw [unfolded, due, List.filter_cons, if_neg (by simpa using own)]
        exact ih rest step

end Collectors

end TrafficMeter.Traffic
