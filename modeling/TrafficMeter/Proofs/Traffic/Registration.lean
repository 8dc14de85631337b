import Mathlib.Data.List.Nodup
import TrafficMeter.Proofs.Metric.Calls
import TrafficMeter.Proofs.Traffic.Readings

/-!
# Registration of families

The families of a subsystem are claimed one after the other, and nothing is taken back when a claim
is refused. Whether a family is refused depends on the registry before all the claims only, because
the names of a subsystem differ from each other.

Main statements: `claimAll_cases`, that either all families are enrolled or those before the first
that is refused, and `enrolAll_extends`, what enrolled families add to a registry.
-/

namespace TrafficMeter.Metric

namespace Name

theorem qualify_injective (subsystem : String) {a b : String}
    (h : qualify subsystem a = qualify subsystem b) : a = b := by
  unfold qualify at h
  split at h
  · exact h
  · have chars := congrArg String.toList h
    rw [String.toList_append, String.toList_append (t := b)] at chars
    exact String.toList_inj.mp (List.append_cancel_left chars)

theorem isRest_of_isStart {c : Char} (h : isStart c = true) : isRest c = true := by
  simp only [isStart, isRest, Char.isAlphanum, Bool.or_eq_true] at h ⊢
  rcases h with (h | h) | h <;> simp [h]

/-- A name can be joined to a subsystem that is empty or itself a valid name, and to no other. -/
theorem isValid_qualify {name : String} (h : isValid name = true) (subsystem : String) :
    isValid (qualify subsystem name) = (subsystem.isEmpty || isValid subsystem) := by
  have rest : name.toList.all isRest = true := by
    unfold isValid at h
    cases e : name.toList with
    | nil => rfl
    | cons c cs =>
        rw [e, validChars, Bool.and_eq_true] at h
        rw [List.all_cons, isRest_of_isStart h.1, h.2]
        rfl
  unfold qualify
  by_cases empty : subsystem.isEmpty = true
  · rw [if_pos empty, h, empty]
    rfl
  · rw [if_neg empty, Bool.eq_false_iff.mpr empty, Bool.false_or, isValid, isValid,
      String.toList_append, String.toList_append]
    cases e : subsystem.toList with
    | nil =>
        rw [String.toList_eq_nil_iff] at e
        exact absurd (by rw [e]; rfl) empty
    | cons c cs =>
        have underscore : isRest '_' = true := by decide
        simp [validChars, rest, underscore]

end Name

/-- Why a registry refuses a name, if it does. -/
def Registry.refusal? (r : Registry) (name : String) : Option MeterError :=
  if Name.isValid name then
    if r.isRegistered name then some (.alreadyRegistered name) else none
  else some (.invalidMetricName name)

end TrafficMeter.Metric

namespace TrafficMeter.Traffic

open TrafficMeter.Metric

/-- Takes a family into a registry: its name, its help text, and the series of a summary. -/
def FamilyClaim.enrol (f : FamilyClaim) (r : Registry) : Registry :=
  let described := { r with claimed := r.claimed ++ [f.name] }.apply (.describe f.name f.help)
  match f.kind with
  | .summary => described.apply (.sample ⟨f.name, []⟩ [])
  | .counter | .gauge => described

/-- Takes families into a registry, one after the other. -/
def enrolAll (r : Registry) (fs : List FamilyClaim) : Registry := fs.foldl (fun r f => f.enrol r) r

/-- A claim enrols its family unless the name is refused. -/
theorem FamilyClaim.register_eq (f : FamilyClaim) (r : Registry) :
    f.register r = match r.refusal? f.name with
      | some e => .error e
      | none => .ok (f.enrol r) := by
  obtain ⟨kind, name, help⟩ := f
  unfold register Registry.registerSummary Registry.registerCounter Registry.claim
    Registry.refusal?
  by_cases valid : Name.isValid name = true
  · by_cases taken : r.isRegistered name = true <;> cases kind <;> simp [valid, taken] <;> rfl
  · cases kind <;> simp [valid]

theorem FamilyClaim.claimed_enrol (f : FamilyClaim) (r : Registry) :
    (f.enrol r).claimed = r.claimed ++ [f.name] := by
  unfold enrol
  cases f.kind <;> simp [Registry.apply_claimed]

theorem claimed_enrolAll (r : Registry) (fs : List FamilyClaim) :
    (enrolAll r fs).claimed = r.claimed ++ fs.map (·.name) := by
  induction fs generalizing r with
  | nil => simp [enrolAll]
  | cons f fs ih =>
      have step := ih (f.enrol r)
      rw [f.claimed_enrol, List.append_assoc] at step
      exact step

/-- An enrolled family makes no other name refused. -/
theorem FamilyClaim.refusal?_enrol {f : FamilyClaim} {name : String} (other : name ≠ f.name)
    (r : Registry) : (f.enrol r).refusal? name = r.refusal? name := by
  have same : (f.enrol r).isRegistered name = r.isRegistered name := by
    rw [Registry.isRegistered, Registry.isRegistered, f.claimed_enrol]
    simp [other]
  rw [Registry.refusal?, Registry.refusal?, same]

/-- Families with different names are all enrolled, or those before the first that is refused. -/
theorem claimAll_cases {fs : List FamilyClaim} (distinct : (fs.map (·.name)).Nodup)
    (r : Registry) :
    ((∀ f ∈ fs, r.refusal? f.name = none) ∧ claimAll r fs = (enrolAll r fs, .ok ())) ∨
      ∃ before f after e, fs = before ++ f :: after ∧
        (∀ g ∈ before, r.refusal? g.name = none) ∧ r.refusal? f.name = some e ∧
        claimAll r fs = (enrolAll r before, .error e) := by
  induction fs generalizing r with
  | nil => exact .inl ⟨by simp, rfl⟩
  | cons f fs ih =>
      obtain ⟨new, distinct⟩ := List.nodup_cons.mp distinct
      have others : ∀ g ∈ fs, (f.enrol r).refusal? g.name = r.refusal? g.name := by
        intro g hg
        refine FamilyClaim.refusal?_enrol ?_ r
        intro same
        exact new (List.mem_map.mpr ⟨g, hg, same⟩)
      rw [claimAll, f.register_eq]
      cases refused : r.refusal? f.name with
      | some e => exact .inr ⟨[], f, fs, e, rfl, by simp, refused, rfl⟩
      | none =>
          rcases ih distinct (f.enrol r) with
            ⟨free, all⟩ | ⟨before, g, after, e, rfl, free, hg, all⟩
          · refine .inl ⟨?_, all⟩
            intro g hg
            rcases List.mem_cons.mp hg with rfl | hg
            · exact refused
            · exact (others g hg).symm.trans (free g hg)
          · refine .inr ⟨f :: before, g, after, e, rfl, ?_, ?_, all⟩
            · intro d hd
              rcases List.mem_cons.mp hd with rfl | hd
              · exact refused
              · exact (others d (List.mem_append_left _ hd)).symm.trans (free d hd)
            · exact (others g (by simp)).symm.trans hg

/-- Whether a series is that of a summary among families. -/
def Summarised (fs : List FamilyClaim) (k : Key) : Prop :=
  ∃ f ∈ fs, f.kind = .summary ∧ k = ⟨f.name, []⟩

instance (fs : List FamilyClaim) (k : Key) : Decidable (Summarised fs k) :=
  inferInstanceAs (Decidable (∃ f ∈ fs, _))

theorem summarised_append (fs gs : List FamilyClaim) (k : Key) :
    Summarised (fs ++ gs) k ↔ Summarised fs k ∨ Summarised gs k := by
  constructor
  · rintro ⟨f, member, own⟩
    rcases List.mem_append.mp member with left | right
    · exact .inl ⟨f, left, own⟩
    · exact .inr ⟨f, right, own⟩
  · rintro (⟨f, member, own⟩ | ⟨f, member, own⟩)
    · exact ⟨f, List.mem_append_left gs member, own⟩
    · exact ⟨f, List.mem_append_right fs member, own⟩

/-- What families add to a registry: their names, help texts for what has none yet, and the series
of summaries that do not exist yet. -/
structure Extends (fs : List FamilyClaim) (r next : Registry) : Prop where
  quantiles : next.quantiles = r.quantiles
  claimed : next.claimed = r.claimed ++ fs.map (·.name)
  helps : ∀ shown, next.helps.lookup shown =
    (r.helps.lookup shown).or ((fs.map fun f => (Name.sanitize f.name, f.help)).lookup shown)
  counters : next.counters = r.counters
  gauges : next.gauges = r.gauges
  summaries : ∀ k, Table.find? next.summaries k =
    if Summarised fs k then some ((Table.find? r.summaries k).getD {})
    else Table.find? r.summaries k

theorem Extends.refl (r : Registry) : Extends [] r r where
  quantiles := rfl
  claimed := by simp
  helps := by simp
  counters := rfl
  gauges := rfl
  summaries := by simp [Summarised]

theorem Extends.trans {fs gs : List FamilyClaim} {r s u : Registry} (first : Extends fs r s)
    (second : Extends gs s u) : Extends (fs ++ gs) r u where
  quantiles := second.quantiles.trans first.quantiles
  claimed := by
    rw [second.claimed, first.claimed, List.map_append, List.append_assoc]
  helps := by
    intro shown
    rw [second.helps, first.helps, List.map_append, List.lookup_append, Option.or_assoc]
  counters := second.counters.trans first.counters
  gauges := second.gauges.trans first.gauges
  summaries := by
    intro k
    rw [second.summaries, first.summaries]
    by_cases hf : Summarised fs k <;> by_cases hg : Summarised gs k <;>
      simp [summarised_append, hf, hg]

theorem FamilyClaim.enrol_extends (f : FamilyClaim) (r : Registry) :
    Extends [f] r (f.enrol r) := by
  obtain ⟨kind, name, help⟩ := f
  have described := Registry.describe_eq { r with claimed := r.claimed ++ [name] } name help
  have helps := Registry.lookup_describe { r with claimed := r.claimed ++ [name] } name help
  cases kind with
  | counter | gauge =>
      rw [enrol]
      simp only [Registry.apply]
      rw [described]
      exact ⟨rfl, rfl, helps, rfl, rfl, by simp [Summarised]⟩
  | summary =>
      rw [enrol]
      simp only [Registry.apply]
      rw [described]
      refine ⟨rfl, rfl, helps, rfl, rfl, ?_⟩
      intro k
      have nothing : ∀ s : Metric.Samples, s.add [] = s := fun s => by simp [Metric.Samples.add]
      rw [Table.find?_alter, nothing]
      by_cases own : k = ⟨name, []⟩
      · subst own
        simp [Summarised]
      · simp [Summarised, own]

/-- What enrolled families add to a registry. -/
theorem enrolAll_extends (r : Registry) (fs : List FamilyClaim) :
    Extends fs r (enrolAll r fs) := by
  induction fs generalizing r with
  | nil => exact .refl r
  | cons f fs ih => exact (f.enrol_extends r).trans (ih (f.enrol r))

/-! ## Registration in a process -/

/-- A process after families were enrolled in a registry. -/
def Telemetry.enrol (t : Telemetry) (id : RegistryId) (fs : List FamilyClaim) : Telemetry :=
  { t with
    registries := t.registries.set id (enrolAll (t.registry id) fs)
    journal := t.journal ++ fs.map (.metricRegistered ·.name) }

theorem Telemetry.foldl_note (es : List Event) (t : Telemetry) :
    es.foldl note t = { t with journal := t.journal ++ es } := by
  induction es generalizing t with
  | nil => simp
  | cons e es ih =>
      rw [List.foldl_cons, ih]
      simp [note]

theorem Telemetry.noteClaims_enrolAll (t : Telemetry) (id : RegistryId) (fs : List FamilyClaim) :
    t.noteClaims id (enrolAll (t.registry id) fs) = t.enrol id fs := by
  rw [noteClaims, claimed_enrolAll, List.drop_left, foldl_note, List.map_map]
  rfl

theorem Telemetry.registry_enrol {t : Telemetry} {id : RegistryId}
    (inside : id < t.registries.length) (fs : List FamilyClaim) :
    (t.enrol id fs).registry id = enrolAll (t.registry id) fs := by
  rw [registry, enrol, List.getElem?_set_self inside, Option.getD_some]

theorem Telemetry.enrol_nil (t : Telemetry) (id : RegistryId) : t.enrol id [] = t := by
  have same : t.registries.set id (t.registry id) = t.registries := by
    apply List.ext_getElem?
    intro place
    rw [List.getElem?_set]
    split
    · next here =>
        subst here
        split
        · next inside => rw [registry, List.getElem?_eq_getElem inside, Option.getD_some]
        · next outside => rw [List.getElem?_eq_none (Nat.le_of_not_lt outside)]
    · rfl
  rw [enrol, enrolAll, List.foldl_nil, same, List.map_nil, List.append_nil]

namespace Collectors

theorem distinct_claims (id : RegistryId) (subsystem : String) :
    ((ofSubsystem id subsystem).claims.map (·.name)).Nodup := by
  have names : (ofSubsystem id subsystem).claims.map (·.name) =
      ["requests_total", "request_duration_microseconds", "request_size_bytes",
        "response_size_bytes"].map (Name.qualify subsystem) := rfl
  rw [names]
  refine List.Nodup.map ?_ (by decide)
  intro a b equal
  exact Name.qualify_injective subsystem equal

/-- The names of a subsystem are all valid or all invalid. -/
theorem isValid_claims (id : RegistryId) (subsystem : String) :
    ∀ f ∈ (ofSubsystem id subsystem).claims,
      Name.isValid f.name = (subsystem.isEmpty || Name.isValid subsystem) := by
  intro f hf
  simp only [claims, List.mem_cons, List.not_mem_nil, or_false] at hf
  rcases hf with rfl | rfl | rfl | rfl <;> exact Name.isValid_qualify (by decide) subsystem

/-- A subsystem with invalid names is refused at its first name. -/
theorem first_of_invalid {id : RegistryId} {subsystem : String} {r : Registry}
    {before after : List FamilyClaim} {f : FamilyClaim}
    (split : (ofSubsystem id subsystem).claims = before ++ f :: after)
    (free : ∀ g ∈ before, r.refusal? g.name = none) (invalid : Name.isValid f.name = false) :
    before = [] := by
  cases before with
  | nil => rfl
  | cons g before =>
      have same := isValid_claims id subsystem
      rw [split] at same
      have hg : Name.isValid g.name = false := by
        rw [same g (by simp), ← same f (by simp), invalid]
      have refused := free g List.mem_cons_self
      rw [Registry.refusal?, hg] at refused
      cases refused

/-- The registry after a registration that was refused. -/
theorem registry_enrol_of_refused {t : Telemetry} {id : RegistryId} {subsystem : String}
    {before after : List FamilyClaim} {f : FamilyClaim} {e : MeterError}
    (split : (ofSubsystem id subsystem).claims = before ++ f :: after)
    (free : ∀ g ∈ before, (t.registry id).refusal? g.name = none)
    (refused : (t.registry id).refusal? f.name = some e) :
    (t.enrol id before).registry id = enrolAll (t.registry id) before := by
  by_cases inside : id < t.registries.length
  · exact Telemetry.registry_enrol inside before
  · -- a registry that does not exist has no names, so the first one must be invalid
    have absent : t.registry id = Registry.empty := by
      rw [Telemetry.registry, List.getElem?_eq_none (Nat.le_of_not_lt inside)]
      rfl
    have invalid : Name.isValid f.name = false := by
      rw [Bool.eq_false_iff]
      intro valid
      rw [absent, Registry.refusal?, if_pos valid] at refused
      cases refused
    rw [first_of_invalid split free invalid, Telemetry.enrol_nil]
    rfl

/-- A registration enrols all families, or those before the first that is refused. -/
theorem register_cases (t : Telemetry) (id : RegistryId) (subsystem : String) :
    register t id subsystem =
        ((t.enrol id (ofSubsystem id subsystem).claims).note (.collectorsRegistered subsystem),
          .ok (ofSubsystem id subsystem)) ∨
      ∃ before f after e, (ofSubsystem id subsystem).claims = before ++ f :: after ∧
        (∀ g ∈ before, (t.registry id).refusal? g.name = none) ∧
        (t.registry id).refusal? f.name = some e ∧
        register t id subsystem = (t.enrol id before, .error e) := by
  rw [register]
  simp only
  rcases claimAll_cases (distinct_claims id subsystem) (t.registry id) with
    ⟨-, all⟩ | ⟨before, f, after, e, split, free, refused, all⟩
  · rw [all]
    exact .inl (by rw [t.noteClaims_enrolAll])
  · rw [all]
    exact .inr ⟨before, f, after, e, split, free, refused, by rw [t.noteClaims_enrolAll]⟩

/-- A registration that succeeds has found all names free. -/
theorem free_of_register {t next : Telemetry} {id : RegistryId} {subsystem : String}
    {c : Collectors} (done : register t id subsystem = (next, .ok c)) :
    ∀ f ∈ (ofSubsystem id subsystem).claims, (t.registry id).refusal? f.name = none := by
  rw [register] at done
  simp only at done
  rcases claimAll_cases (distinct_claims id subsystem) (t.registry id) with
    ⟨free, -⟩ | ⟨before, f, after, e, -, -, -, all⟩
  · exact free
  · rw [all] at done
    cases done

/-- The families of a subsystem show nothing once they are enrolled in a registry without series. -/
theorem readingsIn_enrolAll {r : Registry} (noCounters : r.counters = [])
    (noSummaries : r.summaries = []) (id : RegistryId) (subsystem : String) :
    (ofSubsystem id subsystem).readingsIn (enrolAll r (ofSubsystem id subsystem).claims) =
      some {} := by
  have added := enrolAll_extends r (ofSubsystem id subsystem).claims
  have nothing : ∀ f ∈ (ofSubsystem id subsystem).claims, f.kind = .summary →
      samples? (enrolAll r (ofSubsystem id subsystem).claims) f.name = some 0 := by
    intro f hf summary
    rw [samples?, added.summaries, if_pos ⟨f, hf, summary, rfl⟩, noSummaries]
    simp [Table.find?, Metric.Samples.toList]
  refine readingsIn_eq_some.mpr ⟨?_, ?_, ?_, ?_⟩
  · exact nothing _ (.tail _ (.head _)) rfl
  · exact nothing _ (.tail _ (.tail _ (.head _))) rfl
  · exact nothing _ (.tail _ (.tail _ (.tail _ (.head _)))) rfl
  · rw [added.counters, noCounters]
    rfl

end Collectors

end TrafficMeter.Traffic
