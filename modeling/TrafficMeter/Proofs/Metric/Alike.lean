import Mathlib.Data.List.Forall2
import TrafficMeter.Metric.Registry

/-!
# Registries that differ in the order of samples

Making a page fixes the order in which the samples that came so far are added up. Apart from this
order a registry with pages in between is the one without them, now and after all later writes.

Main statements: `Alike.applyAll`, that writes keep registries alike, and `alike_tally`, that a
page leaves a registry alike.
-/

namespace TrafficMeter.Metric

/-- The samples that were taken in come after the others, but for their order. -/
theorem Samples.toList_add (s : Samples) (values : List Float) :
    (s.add values).toList.Perm (s.toList ++ values) := by
  refine (s.add values).toList_perm.trans ?_
  rw [add, ← List.append_assoc]
  exact s.toList_perm.symm.append_right values

/-- The same summaries with the same samples, in whatever order. -/
abbrev SameSamples : Table Samples → Table Samples → Prop :=
  List.Forall₂ fun a b => a.1 = b.1 ∧ a.2.toList.Perm b.2.toList

/-- Two registries are the same up to the order in which samples are added up. -/
structure Registry.Alike (r s : Registry) : Prop where
  quantiles : r.quantiles = s.quantiles
  claimed : r.claimed = s.claimed
  helps : r.helps = s.helps
  counters : r.counters = s.counters
  gauges : r.gauges = s.gauges
  summaries : SameSamples r.summaries s.summaries

theorem SameSamples.refl (t : Table Samples) : SameSamples t t :=
  List.forall₂_same.mpr fun _ _ => ⟨rfl, .refl _⟩

theorem SameSamples.symm {t u : Table Samples} (h : SameSamples t u) : SameSamples u t :=
  (h.imp fun _ _ same => ⟨same.1.symm, same.2.symm⟩).flip

theorem SameSamples.trans {t u v : Table Samples} (h : SameSamples t u) (g : SameSamples u v) :
    SameSamples t v := by
  induction h generalizing v with
  | nil => exact g
  | cons same _ ih =>
      cases g with
      | cons other rest => exact .cons ⟨same.1.trans other.1, same.2.trans other.2⟩ (ih rest)

/-- A summary takes samples in whatever the order of those that it has. -/
theorem SameSamples.add {t u : Table Samples} (h : SameSamples t u) (k : Key)
    (values : List Float) :
    SameSamples (Table.alter {} (·.add values) k t) (Table.alter {} (·.add values) k u) := by
  induction h with
  | nil => exact .refl _
  | @cons a b t u same rest ih =>
      obtain ⟨key, samples⟩ := a
      obtain ⟨other, others⟩ := b
      obtain ⟨rfl, perm⟩ := same
      rw [Table.alter, Table.alter]
      split
      · refine .cons ⟨rfl, ?_⟩ rest
        exact (samples.toList_add values).trans
          ((perm.append_right values).trans (others.toList_add values).symm)
      · exact .cons ⟨rfl, perm⟩ ih

namespace Registry

theorem Alike.refl (r : Registry) : r.Alike r := ⟨rfl, rfl, rfl, rfl, rfl, .refl _⟩

variable {r s u : Registry}

theorem Alike.symm (h : r.Alike s) : s.Alike r :=
  ⟨h.quantiles.symm, h.claimed.symm, h.helps.symm, h.counters.symm, h.gauges.symm,
    h.summaries.symm⟩

theorem Alike.trans (h : r.Alike s) (g : s.Alike u) : r.Alike u :=
  ⟨h.quantiles.trans g.quantiles, h.claimed.trans g.claimed, h.helps.trans g.helps,
    h.counters.trans g.counters, h.gauges.trans g.gauges, h.summaries.trans g.summaries⟩

theorem Alike.apply (h : r.Alike s) (w : Write) : (r.apply w).Alike (s.apply w) := by
  cases w with
  | describe name help =>
      simp only [Registry.apply, describe, h.helps]
      split
      · exact h
      · exact ⟨h.quantiles, h.claimed, rfl, h.counters, h.gauges, h.summaries⟩
  | add key amount | raise key amount =>
      exact ⟨h.quantiles, h.claimed, h.helps, congrArg (Table.alter _ _ key) h.counters, h.gauges,
        h.summaries⟩
  | setGauge key value | shiftGauge key value =>
      exact ⟨h.quantiles, h.claimed, h.helps, h.counters, congrArg (Table.alter _ _ key) h.gauges,
        h.summaries⟩
  | sample key values =>
      exact ⟨h.quantiles, h.claimed, h.helps, h.counters, h.gauges, h.summaries.add key values⟩

theorem Alike.applyAll (h : r.Alike s) (ws : List Write) :
    (r.applyAll ws).Alike (s.applyAll ws) := by
  induction ws generalizing r s with
  | nil => exact h
  | cons w ws ih => exact ih (h.apply w)

/-- A page leaves a registry alike. -/
theorem alike_tally (r : Registry) : r.tally.Alike r := by
  refine ⟨rfl, rfl, rfl, rfl, rfl, ?_⟩
  refine List.forall₂_map_left_iff.mpr (List.forall₂_same.mpr ?_)
  rintro ⟨key, samples⟩ -
  exact ⟨rfl, by rw [Samples.toList_tally]⟩

end Registry

end TrafficMeter.Metric
