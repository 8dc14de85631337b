import TrafficMeter.Proofs.Traffic.Readings

/-!
# What observations add up to

Requests that were observed one by one, in whatever order, are counted by the series of their
status code, method and path, and each summary holds one sample of each of them.

Main statement: `shows_foldl_observe`, that this is what readings show that started from nothing.
-/

namespace TrafficMeter.Traffic

open TrafficMeter.Metric (Table Key)

/-- The series of a family that counts the requests of a status code, a method and a path. -/
def Collectors.seriesOf (c : Collectors) (status : Nat) (method path : String) : Key :=
  ⟨c.requests, [("code", Decimal.natural status), ("method", method), ("path", path)]⟩

/-- The observations of a status code, a method and a path. -/
def Observation.Of (status : Nat) (method path : String) (o : Observation) : Prop :=
  o.status = status ∧ o.method = method ∧ o.path = path

instance (status : Nat) (method path : String) :
    DecidablePred (Observation.Of status method path) :=
  fun _ => inferInstanceAs (Decidable (_ ∧ _ ∧ _))

theorem Collectors.labels_eq_iff (c : Collectors) (o : Observation) (status : Nat)
    (method path : String) :
    (⟨c.requests, labels o⟩ : Key) = c.seriesOf status method path ↔ o.Of status method path := by
  constructor
  · intro h
    simp only [seriesOf, labels, Key.mk.injEq, List.cons.injEq, Prod.mk.injEq, true_and,
      and_true] at h
    exact ⟨Decimal.natural_injective h.1, h.2⟩
  · rintro ⟨rfl, rfl, rfl⟩
    rfl

/-- Readings that show some observations and nothing else. -/
structure Readings.Shows (c : Collectors) (os : List Observation) (rd : Readings) : Prop where
  /-- A series exists once a request of it was observed, and counts with 64 bits. -/
  series : ∀ status method path, Table.find? rd.requests (c.seriesOf status method path) =
    if os.countP (Observation.Of status method path) = 0 then none
    else some (UInt64.ofNat (os.countP (Observation.Of status method path)))
  total : Table.total rd.requests % 2 ^ 64 = os.length % 2 ^ 64
  durations : rd.durations = (os.map (·.elapsed) : Multiset Float)
  requestSizes : rd.requestSizes = (os.map (·.requestSize.toFloat) : Multiset Float)
  responseSizes : rd.responseSizes = (os.map (·.responseSize.toFloat) : Multiset Float)

theorem foldl_observe (c : Collectors) (os : List Observation) (rd : Readings) :
    os.foldl (Readings.observe c) rd =
      { requests := Table.countAll (fun o => ⟨c.requests, Collectors.labels o⟩) os rd.requests
        durations := (os.map (·.elapsed) : Multiset Float) + rd.durations
        requestSizes := (os.map (·.requestSize.toFloat) : Multiset Float) + rd.requestSizes
        responseSizes :=
          (os.map (·.responseSize.toFloat) : Multiset Float) + rd.responseSizes } := by
  induction os generalizing rd with
  | nil => simp [Table.countAll]
  | cons o os ih =>
      rw [List.foldl_cons, ih]
      simp only [Readings.observe, Table.countAll, List.foldl_cons, List.map_cons,
        ← Multiset.cons_coe, Multiset.cons_add, Multiset.add_cons]

/-- Readings that started from nothing show what was observed. -/
theorem shows_foldl_observe (c : Collectors) (os : List Observation) :
    (os.foldl (Readings.observe c) {}).Shows c os := by
  rw [foldl_observe]
  refine ⟨?_, ?_, by simp, by simp, by simp⟩
  · intro status method path
    have counted : os.countP (fun o => (⟨c.requests, Collectors.labels o⟩ : Key) =
        c.seriesOf status method path) = os.countP (Observation.Of status method path) := by
      simp only [Collectors.labels_eq_iff]
    rw [Table.find?_countAll, counted]
    simp [Table.find?]
  · rw [Table.total_countAll]
    simp [Table.total]

/-- The order of observations cannot be seen. -/
theorem Readings.Shows.perm {c : Collectors} {os others : List Observation} {rd : Readings}
    (h : rd.Shows c os) (same : os.Perm others) : rd.Shows c others where
  series := by
    intro status method path
    rw [h.series, same.countP_eq]
  total := by rw [h.total, same.length_eq]
  durations := h.durations.trans (Multiset.coe_eq_coe.mpr (same.map _))
  requestSizes := h.requestSizes.trans (Multiset.coe_eq_coe.mpr (same.map _))
  responseSizes := h.responseSizes.trans (Multiset.coe_eq_coe.mpr (same.map _))

end TrafficMeter.Traffic
