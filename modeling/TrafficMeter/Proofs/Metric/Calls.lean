import Mathlib.Data.List.Induction
import TrafficMeter.Proofs.Metric.Tables
import TrafficMeter.Metric.Label
import TrafficMeter.Metric.Registry

/-!
# Calls of a registry

A registry that nothing records to is used through its own methods: families are claimed, series of
counters are got and incremented, and summaries that were registered take samples. Nothing ties a
counter to a claim.

Main statement: `callAll_kept`, which series there are after any calls.
-/

namespace TrafficMeter.Metric

/-- A call of one of a registry's own methods. -/
inductive Call where
  | registerCounter (name help : String)
  | registerSummary (name help : String)
  /-- Gets a series of a counter and increments it. -/
  | count (name : String) (labels : List Label.Pair) (amounts : List UInt64)
  /-- Takes samples through what the registration of a summary gave. -/
  | record (name : String) (values : List Float)
  | render

namespace Registry

/-- Carries out a call. A registration that is refused changes nothing, and without a registration
there is nothing to record through. -/
def call (r : Registry) : Call → Registry
  | .registerCounter name help => (r.registerCounter name help).toOption.getD r
  | .registerSummary name help => (r.registerSummary name help).toOption.getD r
  | .count name labels amounts =>
      r.applyAll (.add ⟨name, labels⟩ 0 :: amounts.map (.add ⟨name, labels⟩))
  | .record name values =>
      if (Table.find? r.summaries ⟨name, []⟩).isSome then r.apply (.sample ⟨name, []⟩ values) else r
  | .render => r.tally

/-- Carries out calls one after the other. -/
def callAll (r : Registry) (calls : List Call) : Registry := calls.foldl call r

/-- A help text changes nothing else. -/
theorem describe_eq (r : Registry) (name help : String) :
    r.describe name help = { r with helps := (r.describe name help).helps } := by
  unfold describe
  simp only
  split <;> rfl

/-- A help text is kept unless the name that the page shows has one. -/
theorem lookup_describe (r : Registry) (name help shown : String) :
    (r.describe name help).helps.lookup shown =
      (r.helps.lookup shown).or ([(Name.sanitize name, help)].lookup shown) := by
  unfold describe
  simp only
  split
  · next known =>
      by_cases same : shown = Name.sanitize name
      · obtain ⟨kept, hk⟩ := Option.isSome_iff_exists.mp known
        rw [same, hk, Option.some_or]
      · rw [Assoc.lookup_cons_ite, if_neg same, List.lookup_nil, Option.or_none]
  · exact List.lookup_append ..

/-- What a claim of a family leaves as it is. -/
theorem call_registerCounter (r : Registry) (name help : String) :
    ∃ claimed helps, r.call (.registerCounter name help) = { r with claimed, helps } := by
  rw [call, registerCounter]
  cases claimed : r.claim name with
  | error e => exact ⟨r.claimed, r.helps, rfl⟩
  | ok r' =>
      obtain ⟨-, -, rfl⟩ := claim_eq_ok_iff.mp claimed
      exact ⟨_, _, describe_eq _ name help⟩

/-- What the claim of a summary leaves as it is. -/
theorem call_registerSummary (r : Registry) (name help : String) :
    r.call (.registerSummary name help) = r ∨
      Name.isValid name = true ∧ ∃ claimed helps,
        r.call (.registerSummary name help) = { r with
          claimed, helps
          summaries := Table.alter {} (·.add []) ⟨name, []⟩ r.summaries } := by
  rw [call, registerSummary]
  cases claimed : r.claim name with
  | error e => exact .inl rfl
  | ok r' =>
      obtain ⟨valid, -, rfl⟩ := claim_eq_ok_iff.mp claimed
      have described := describe_eq { r with claimed := r.claimed ++ [name] } name help
      exact .inr ⟨valid, _, _, congrArg (·.apply (.sample ⟨name, []⟩ [])) described⟩

theorem applyAll_adds (r : Registry) (key : Key) (amounts : List UInt64) :
    r.applyAll (amounts.map (.add key)) =
      { r with counters := amounts.foldl (fun t n => Table.alter 0 (· + n) key t) r.counters } := by
  induction amounts generalizing r with
  | nil => rfl
  | cons n amounts ih => exact ih _

/-- The series that is got exists, and increments bring no other into being. -/
theorem mem_keys_adds {key k : Key} {amounts : List UInt64} {t : Table UInt64} :
    k ∈ ((0 :: amounts).foldl (fun t n => Table.alter 0 (· + n) key t) t).map Prod.fst ↔
      k ∈ t.map Prod.fst ∨ k = key := by
  have grown : ∀ (amounts : List UInt64) (t : Table UInt64), key ∈ t.map Prod.fst →
      (k ∈ (amounts.foldl (fun t n => Table.alter 0 (· + n) key t) t).map Prod.fst ↔
        k ∈ t.map Prod.fst) := by
    intro amounts
    induction amounts with
    | nil => exact fun t _ => Iff.rfl
    | cons n amounts ih =>
        intro t old
        rw [List.foldl_cons, ih _ (Table.mem_keys_alter.mpr (.inl rfl)), Table.mem_keys_alter,
          or_iff_right_of_imp fun same => same ▸ old]
  rw [List.foldl_cons, grown amounts _ (Table.mem_keys_alter.mpr (.inl rfl)),
    Table.mem_keys_alter, or_comm]

/-- What is kept of calls. -/
structure Kept (quantiles : List Float) (calls : List Call) (r : Registry) : Prop where
  quantiles : r.quantiles = quantiles
  gauges : r.gauges = []
  /-- A series of a counter exists once it was got. -/
  counters : ∀ k : Key, k ∈ r.counters.map Prod.fst ↔
    ∃ amounts, .count k.name k.labels amounts ∈ calls
  distinct : (r.summaries.map Prod.fst).Nodup
  /-- A summary has no labels, and a name that could be claimed. -/
  summaries : ∀ k ∈ r.summaries.map Prod.fst, k.labels = [] ∧ Name.isValid k.name = true

variable {quantiles : List Float} {calls : List Call} {r : Registry}

/-- Nothing was counted by a call that gets no series. -/
theorem mem_append_of_ne {c : Call} (other : ∀ name labels amounts, c ≠ .count name labels amounts)
    (k : Key) : (∃ amounts, .count k.name k.labels amounts ∈ calls ++ [c]) ↔
      ∃ amounts, .count k.name k.labels amounts ∈ calls := by
  refine exists_congr fun amounts => ?_
  rw [List.mem_append, List.mem_singleton, or_iff_left fun same => other _ _ _ same.symm]

theorem Kept.call (kept : Kept quantiles calls r) (c : Call) :
    Kept quantiles (calls ++ [c]) (r.call c) := by
  obtain ⟨same, gauges, counters, distinct, summaries⟩ := kept
  cases c with
  | registerCounter name help =>
      obtain ⟨claimed, helps, after⟩ := call_registerCounter r name help
      rw [after]
      refine ⟨same, gauges, fun k => ?_, distinct, summaries⟩
      rw [mem_append_of_ne (by simp)]
      exact counters k
  | registerSummary name help =>
      have unchanged : ∀ k : Key, k ∈ r.counters.map Prod.fst ↔
          ∃ amounts, .count k.name k.labels amounts ∈ calls ++ [.registerSummary name help] := by
        intro k
        rw [mem_append_of_ne (by simp)]
        exact counters k
      rcases call_registerSummary r name help with after | ⟨valid, claimed, helps, after⟩
      · rw [after]
        exact ⟨same, gauges, unchanged, distinct, summaries⟩
      · rw [after]
        refine ⟨same, gauges, unchanged, Table.nodup_alter distinct, fun k member => ?_⟩
        rcases Table.mem_keys_alter.mp member with rfl | old
        · exact ⟨rfl, valid⟩
        · exact summaries k old
  | count name labels amounts =>
      have after : r.call (.count name labels amounts) = { r with
          counters := (0 :: amounts).foldl (fun t n => Table.alter 0 (· + n) ⟨name, labels⟩ t)
            r.counters } := applyAll_adds r ⟨name, labels⟩ (0 :: amounts)
      rw [after]
      refine ⟨same, gauges, fun k => ?_, distinct, summaries⟩
      rw [mem_keys_adds, counters]
      simp only [List.mem_append, List.mem_singleton, Call.count.injEq, exists_or]
      refine or_congr_right ?_
      constructor
      · rintro rfl
        exact ⟨amounts, rfl, rfl, rfl⟩
      · rintro ⟨-, rfl, rfl, -⟩
        rfl
  | record name values =>
      have unchanged : ∀ k : Key, k ∈ r.counters.map Prod.fst ↔
          ∃ amounts, .count k.name k.labels amounts ∈ calls ++ [.record name values] := by
        intro k
        rw [mem_append_of_ne (by simp)]
        exact counters k
      rw [Registry.call]
      split
      · next some =>
          obtain ⟨samples, found⟩ := Option.isSome_iff_exists.mp some
          have old := List.mem_map_of_mem (f := Prod.fst)
            ((Table.mem_iff_find? distinct).mpr found)
          refine ⟨same, gauges, unchanged, Table.nodup_alter distinct, fun k member => ?_⟩
          rcases Table.mem_keys_alter.mp member with rfl | member
          · exact summaries _ old
          · exact summaries k member
      · exact ⟨same, gauges, unchanged, distinct, summaries⟩
  | render =>
      have keys : r.tally.summaries.map Prod.fst = r.summaries.map Prod.fst := by
        rw [Registry.tally, List.map_map]
        rfl
      refine ⟨same, gauges, fun k => ?_, ?_, ?_⟩
      · rw [mem_append_of_ne (by simp)]
        exact counters k
      · exact keys ▸ distinct
      · exact keys ▸ summaries

/-- Which series there are after any calls. -/
theorem callAll_kept (quantiles : List Float) (calls : List Call) :
    Kept quantiles calls (({ quantiles } : Registry).callAll calls) := by
  induction calls using List.reverseRecOn with
  | nil => exact ⟨rfl, rfl, by simp [callAll], List.nodup_nil, by simp [callAll]⟩
  | append_singleton calls c ih =>
      rw [callAll, List.foldl_append]
      exact ih.call c

end Registry

end TrafficMeter.Metric
