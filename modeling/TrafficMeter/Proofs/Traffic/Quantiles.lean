import Mathlib.Data.List.Forall2
import TrafficMeter.Proofs.Metric.Collisions
import TrafficMeter.Proofs.Traffic.Claims

/-!
# Quantiles that a registry is asked for

A registry takes any list of quantiles but the empty one and brings each of them between zero and
one. So a number that is no quantile is not refused. Another one is shown in its place by every
summary, as long as the registry is used.

Main statement: `honoursQuantiles_iff`, which lists of quantiles are honoured, and what is shown of
the others.
-/

namespace TrafficMeter.Metric

/-! ## Machine numbers in order -/

namespace Sketch

open Float.Model (UnpackedFloat)

/-- Numbers that change places compare the other way round. -/
theorem compare_swap (a b : UnpackedFloat) : b.compare a = (a.compare b).map Ordering.swap := by
  cases a with
  | notANumber => cases b <;> rfl
  | infinity s =>
      cases b with
      | notANumber | zero => cases s <;> rfl
      | infinity t | finite t => cases s <;> cases t <;> rfl
  | zero s =>
      cases b with
      | notANumber | zero => rfl
      | infinity t | finite t => cases t <;> rfl
  | finite s m e =>
      cases b with
      | notANumber | zero => cases s <;> rfl
      | infinity t => cases s <;> cases t <;> rfl
      | finite t n f =>
          have parts : (compare f e).then (compare n m) =
              ((compare e f).then (compare m n)).swap := by
            rw [Ordering.swap_then, Int.compare_swap, Nat.compare_swap]
          cases s with
          | negative =>
              cases t with
              | negative => exact congrArg (fun o => some o.swap) parts
              | positive => rfl
          | positive =>
              cases t with
              | negative => rfl
              | positive => exact congrArg some parts

/-- What compares with anything is equal to itself. -/
theorem compare_self {a b : UnpackedFloat} {o : Ordering} (comparable : a.compare b = some o) :
    b.compare b = some .eq := by
  cases b with
  | notANumber =>
      cases a with
      | infinity s | finite s => cases s <;> cases comparable
      | notANumber | zero => cases comparable
  | infinity s => cases s <;> rfl
  | zero s => rfl
  | finite s m e =>
      have same : (compare e e).then (compare m m) = .eq := by simp
      cases s with
      | negative => exact congrArg (fun o => some o.swap) same
      | positive => exact congrArg some same

variable {a b : Float}

theorem lt_iff : a < b ↔ a.toModel.unpack.compare b.toModel.unpack = some .lt := by
  change decide ((_ == some Ordering.lt) = true) = true ↔ _
  rw [decide_eq_true_eq, beq_iff_eq]

theorem beq_iff : (a == b) = true ↔ a.toModel.unpack.compare b.toModel.unpack = some .eq := by
  change (_ == some Ordering.eq) = true ↔ _
  rw [beq_iff_eq]

theorem le_iff : a ≤ b ↔ a < b ∨ (a == b) = true := by
  rw [lt_iff, beq_iff]
  change decide (Option.any Ordering.isLE (a.toModel.unpack.compare b.toModel.unpack) = true) =
    true ↔ _
  rw [decide_eq_true_eq]
  cases a.toModel.unpack.compare b.toModel.unpack with
  | none => simp
  | some o => cases o <;> simp

/-- A number from zero to one. -/
def InBounds (q : Float) : Prop := 0 ≤ q ∧ q ≤ 1

instance : DecidablePred InBounds := fun _ => inferInstanceAs (Decidable (_ ∧ _))

/-- A number from zero to one is kept, but for the sign of zero. -/
theorem clamp_beq {q : Float} (h : InBounds q) : (clamp q == q) = true := by
  obtain ⟨low, high⟩ := h
  rw [clamp]
  split
  · next positive =>
      split
      · apply beq_iff.mpr
        exact compare_self (lt_iff.mp positive)
      · next greatest =>
          have one := beq_iff.mp ((le_iff.mp high).resolve_left greatest)
          rw [beq_iff, compare_swap, one]
          rfl
  · next least => exact (le_iff.mp low).resolve_left least

end Sketch

/-! ## Quantiles on a page -/

/-- Each series of a family shows these values as its quantiles, in their order and after the labels
of its own. The lines that bear the name of the family itself are those of quantiles. -/
def Family.Quantiles (f : Family) (values : List Float) : Prop :=
  ∀ lines ∈ f.series, ∃ own, (lines.filter (·.name = f.name)).map (·.labels) =
    values.map fun v => own ++ [Label.write (Page.quantileLabel v)]

namespace Page

/-- The lines of a summary that bear its own name are those of its quantiles. -/
theorem quantiles_summaryLines (quantiles samples : List Float) (name : String)
    (labels : List String) :
    ((summaryLines quantiles name labels samples).filter (·.name = name)).map (·.labels) =
      quantiles.map fun q => labels ++ [Label.write (quantileLabel q)] := by
  have firsts : (quantiles.zip (Sketch.estimates quantiles samples)).map Prod.fst = quantiles :=
    List.map_fst_zip (by simp [Sketch.estimates])
  have parts : summaryLines quantiles name labels samples =
      (quantiles.zip (Sketch.estimates quantiles samples)).map (fun shown =>
        { role := .quantile, name
          labels := labels ++ ["quantile=\"" ++ Decimal.plainFloat shown.1 ++ "\""]
          value := Decimal.plainFloat shown.2 }) ++
      [{ role := .sum, name := name ++ "_sum", labels
         value := Decimal.plainFloat (samples.foldl (· + ·) 0) },
       { role := .count, name := name ++ "_count", labels
         value := Decimal.natural samples.length }] :=
    rfl
  have sum : name ++ "_sum" ≠ name := by simp
  have count : name ++ "_count" ≠ name := by simp
  have derived : ∀ s t : Sample, s.name ≠ name → t.name ≠ name →
      [s, t].filter (·.name = name) = [] := by
    intro s t first second
    simp [first, second]
  rw [parts, List.filter_append, derived _ _ sum count, List.append_nil, List.filter_eq_self.mpr,
    List.map_map]
  · conv_rhs => rw [← firsts, List.map_map]
    apply List.map_congr_left
    intro shown _
    rw [Function.comp_apply, Function.comp_apply, write_quantileLabel]
  · intro s member
    obtain ⟨shown, -, rfl⟩ := List.mem_map.mp member
    exact decide_eq_true rfl

theorem kind_of_mem_families {α : Type} {r : Registry} {kind : Kind} {both : α → α → α}
    {lines : String → List String → α → List Sample} {t : Table α} {f : Family}
    (member : f ∈ families r kind both lines t) : f.kind = kind := by
  rw [families_eq] at member
  obtain ⟨name, -, rfl⟩ := List.mem_map.mp member
  rfl

/-- The summaries of a page show the quantiles of the registry. -/
theorem quantiles_ofRegistry {r : Registry} {f : Family} (member : f ∈ ofRegistry r)
    (summary : f.kind = .summary) : f.Quantiles r.quantiles := by
  rcases List.mem_append.mp member with member | member
  · rcases List.mem_append.mp member with counter | gauge
    · cases (kind_of_mem_families counter).symm.trans summary
    · cases (kind_of_mem_families gauge).symm.trans summary
  · obtain ⟨e, -, -, series⟩ := mem_families member
    intro lines shown
    rw [series] at shown
    obtain ⟨⟨labels, samples⟩, -, rfl⟩ := List.mem_map.mp shown
    exact ⟨labels, quantiles_summaryLines ..⟩

end Page

theorem Registry.withQuantiles_eq_ok_iff {asked : List Float} {r : Registry} :
    withQuantiles asked = .ok r ↔ asked ≠ [] ∧ r = { quantiles := asked.map Sketch.clamp } := by
  cases asked with
  | nil => simp [withQuantiles]
  | cons q rest => simp [withQuantiles, eq_comm]

end TrafficMeter.Metric

namespace TrafficMeter.Traffic

open TrafficMeter.Metric

/-! ## Quantiles over a whole history -/

/-- Whatever is done in a process, the summaries of a registry show these values as their
quantiles. -/
def ShowsQuantiles (r : Registry) (values : List Float) : Prop :=
  ∀ (t : Telemetry) (id : RegistryId), t.registries[id]? = some r → ∀ acts : List History.Act,
    ∀ f ∈ Page.ofRegistry ((History.run { telemetry := t } acts).telemetry.registry id),
      f.kind = .summary → f.Quantiles values

/-- A registry is made for a list of quantiles exactly if there are some and all of them are from
zero to one, and then its summaries show them as they were asked for. -/
structure HonoursQuantiles (asked : List Float) : Prop where
  made : (∃ r, Registry.withQuantiles asked = .ok r) ↔
    asked ≠ [] ∧ ∀ q ∈ asked, Sketch.InBounds q
  shown : ∀ r, Registry.withQuantiles asked = .ok r →
    ∃ values, List.Forall₂ (fun v q => (v == q) = true) values asked ∧ ShowsQuantiles r values

theorem lasting_quantiles (quantiles : List Float) :
    Lasting fun r => r.quantiles = quantiles where
  claim same _ := same
  apply w same := by
    cases w with
    | describe name help =>
        rw [Registry.apply, Registry.describe_eq]
        exact same
    | add | raise | setGauge | shiftGauge | sample => exact same
  tally same := same

/-- A registry shows the quantiles that it began with. -/
theorem showsQuantiles_self (r : Registry) : ShowsQuantiles r r.quantiles := by
  intro t id there acts f member summary
  have kept := History.run_lasting (lasting_quantiles r.quantiles) there rfl acts
  rw [← kept]
  exact Page.quantiles_ofRegistry member summary

/-- A list of quantiles is honoured if all of them are from zero to one. Any other list is taken as
well, with each number brought between zero and one. -/
theorem honoursQuantiles_iff (asked : List Float) :
    (HonoursQuantiles asked ↔ ∀ q ∈ asked, Sketch.InBounds q) ∧
      (asked ≠ [] → ∃ r, Registry.withQuantiles asked = .ok r ∧
        ShowsQuantiles r (asked.map Sketch.clamp)) := by
  have taken : asked ≠ [] → ∃ r, Registry.withQuantiles asked = .ok r ∧
      ShowsQuantiles r (asked.map Sketch.clamp) := by
    intro some
    exact ⟨_, Registry.withQuantiles_eq_ok_iff.mpr ⟨some, rfl⟩, showsQuantiles_self _⟩
  refine ⟨⟨fun honours q member => ?_, fun inside => ⟨⟨?_, ?_⟩, ?_⟩⟩, taken⟩
  · obtain ⟨r, made, -⟩ := taken (List.ne_nil_of_mem member)
    exact (honours.made.mp ⟨r, made⟩).2 q member
  · intro ⟨r, made⟩
    exact ⟨(Registry.withQuantiles_eq_ok_iff.mp made).1, inside⟩
  · intro given
    obtain ⟨r, made, -⟩ := taken given.1
    exact ⟨r, made⟩
  · intro r made
    obtain ⟨-, rfl⟩ := Registry.withQuantiles_eq_ok_iff.mp made
    refine ⟨asked.map Sketch.clamp, ?_, showsQuantiles_self _⟩
    rw [List.forall₂_map_left_iff, List.forall₂_same]
    intro q member
    exact Sketch.clamp_beq (inside q member)

/-- The ends of the range are honoured, a negative zero among them. A number above one and one that
is no number are shown as the ends. -/
theorem honoursQuantiles_ends :
    HonoursQuantiles [1, 0.25, -0.0] ∧ ¬ HonoursQuantiles [0.5, 2, 0 / 0] ∧
      [0.5, 2, 0 / 0] ≠ ([] : List Float) ∧
        ∃ r, Registry.withQuantiles [0.5, 2, 0 / 0] = .ok r ∧ ShowsQuantiles r [0.5, 1, 0] := by
  have some : [0.5, 2, 0 / 0] ≠ ([] : List Float) := List.cons_ne_nil _ _
  have ends : [0.5, 2, 0 / 0].map Sketch.clamp = [0.5, 1, 0] := by decide
  have shown := (honoursQuantiles_iff [0.5, 2, 0 / 0]).2 some
  rw [ends] at shown
  refine ⟨(honoursQuantiles_iff _).1.mpr (by decide), ?_, some, shown⟩
  intro honours
  exact absurd ((honoursQuantiles_iff _).1.mp honours) (by decide)

/-- A registry is made for a number above one. -/
theorem not_honoursQuantiles : ¬ ∀ asked : List Float, HonoursQuantiles asked := by
  intro honours
  have made := Registry.withQuantiles_eq_ok_iff.mpr ⟨List.cons_ne_nil (2 : Float) [], rfl⟩
  have inside := ((honours [2]).made.mp ⟨_, made⟩).2 2 List.mem_cons_self
  exact absurd inside (by decide)

end TrafficMeter.Traffic
