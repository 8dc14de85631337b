import TrafficMeter.Proofs.Routing.Metering
import TrafficMeter.Proofs.Traffic.Claims
import TrafficMeter.Proofs.Traffic.Subsystems

/-!
# Subsystems that are registered one after the other

Meters for several subsystems can share a registry. The families of a subsystem are refused for its
own sake, if it cannot stand in front of a name, or because the same subsystem is registered
already. No other subsystem is ever in its way, so a refusal comes at the first family and leaves
nothing behind.

Main statement: `enterAll_exact`, what each registration of a sequence comes to, and which names are
registered afterwards.
-/

namespace TrafficMeter.Routing

open TrafficMeter.Metric (Registry Name.isValid Name.qualify)
open TrafficMeter.Traffic

/-! ## One registration -/

/-- The names of the families of a subsystem. -/
def familyNames (subsystem : String) : List String :=
  ["requests_total", "request_duration_microseconds", "request_size_bytes",
    "response_size_bytes"].map (Name.qualify subsystem)

/-- A subsystem that can stand in front of a name, or that adds nothing to it. -/
def CanStand (subsystem : String) : Prop := subsystem = "" ∨ Name.isValid subsystem = true

instance : DecidablePred CanStand := fun _ => inferInstanceAs (Decidable (_ ∨ _))

theorem isValid_familyNames {subsystem name : String} (member : name ∈ familyNames subsystem) :
    Name.isValid name = true ↔ CanStand subsystem := by
  obtain ⟨bare, known, rfl⟩ := List.mem_map.mp member
  have valid : ∀ bare ∈ ["requests_total", "request_duration_microseconds", "request_size_bytes",
      "response_size_bytes"], Name.isValid bare = true := by decide
  rw [Metric.Name.isValid_qualify (valid bare known), Bool.or_eq_true, String.isEmpty_iff, CanStand]

/-- Different subsystems have no name in common. -/
theorem eq_of_mem_familyNames {a b name : String} (first : name ∈ familyNames a)
    (second : name ∈ familyNames b) : a = b := by
  by_contra other
  exact Collectors.apart_of_ne other 0 0 rfl name first second

variable {t : Telemetry} {id : RegistryId} {subsystem : String}

/-- A subsystem whose counter is refused is refused, and nothing is changed. -/
theorem RequestMeter.new_of_refused {e : MeterError}
    (refused : (t.registry id).refusal? (Name.qualify subsystem "requests_total") = some e) :
    RequestMeter.new t id subsystem = (t, .error e) := by
  rcases Collectors.register_cases t id subsystem with
    all | ⟨before, f, after, cause, split, free, reason, all⟩
  · have free := Collectors.free_of_register all _ List.mem_cons_self
    cases free.symm.trans refused
  · cases before with
    | nil =>
        obtain ⟨rfl, -⟩ := List.cons.inj split
        cases reason.symm.trans refused
        rw [RequestMeter.new, all, t.enrol_nil]
        rfl
    | cons g before =>
        obtain ⟨rfl, -⟩ := List.cons.inj split
        cases (free _ List.mem_cons_self).symm.trans refused

/-- A subsystem whose names are all free is registered. -/
theorem RequestMeter.new_of_free
    (free : ∀ name ∈ familyNames subsystem, (t.registry id).refusal? name = none) :
    RequestMeter.new t id subsystem =
      ((t.enrol id (Collectors.ofSubsystem id subsystem).claims).note
          (.collectorsRegistered subsystem),
        .ok { collectors := Collectors.ofSubsystem id subsystem }) := by
  rcases Collectors.register_cases t id subsystem with
    all | ⟨before, f, after, cause, split, -, reason, -⟩
  · rw [RequestMeter.new, all]
    rfl
  · have own : f ∈ (Collectors.ofSubsystem id subsystem).claims := by
      rw [split]
      exact List.mem_append_right _ List.mem_cons_self
    have none := free f.name (List.mem_map_of_mem (f := FamilyClaim.name) own)
    cases none.symm.trans reason

/-! ## Sequences -/

theorem isOk_iff_exists {ε α : Type} {outcome : Except ε α} :
    outcome.isOk = true ↔ ∃ a, outcome = .ok a := by
  cases outcome <;> simp [Except.isOk, Except.toBool]

/-- A registration that was tried, and what it came to. -/
structure Entry where
  subsystem : String
  outcome : Except MeterError RequestMeter

/-- A process with the registrations that were tried at one registry, the oldest first. -/
structure Roster where
  telemetry : Telemetry
  entries : List Entry := []

namespace Roster

/-- Registers a subsystem. -/
def enter (id : RegistryId) (s : Roster) (subsystem : String) : Roster :=
  let (telemetry, outcome) := RequestMeter.new s.telemetry id subsystem
  { telemetry, entries := s.entries ++ [⟨subsystem, outcome⟩] }

/-- Registers subsystems one after the other. -/
def enterAll (id : RegistryId) (s : Roster) (subsystems : List String) : Roster :=
  subsystems.foldl (enter id) s

/-- The subsystems that were tried. -/
def tried (s : Roster) : List String := s.entries.map (·.subsystem)

/-- The subsystems whose registration has succeeded. -/
def accepted (s : Roster) : List String :=
  (s.entries.filter (·.outcome.isOk)).map (·.subsystem)

/-- What the registration of a subsystem comes to after those of some others. -/
def verdict (id : RegistryId) (earlier : List String) (subsystem : String) :
    Except MeterError RequestMeter :=
  if CanStand subsystem then
    if subsystem ∈ earlier then
      .error (.alreadyRegistered (Name.qualify subsystem "requests_total"))
    else .ok { collectors := Collectors.ofSubsystem id subsystem }
  else .error (.invalidMetricName (Name.qualify subsystem "requests_total"))

theorem isOk_verdict {earlier : List String} :
    (verdict id earlier subsystem).isOk = true ↔ CanStand subsystem ∧ subsystem ∉ earlier := by
  by_cases stands : CanStand subsystem <;> by_cases again : subsystem ∈ earlier <;>
    simp [verdict, stands, again, Except.isOk, Except.toBool]

/-- The claims of the registry are those of the subsystems that can stand among those tried. -/
structure Sound (id : RegistryId) (s : Roster) : Prop where
  inside : id < s.telemetry.registries.length
  claimed : (s.telemetry.registry id).claimed = s.accepted.flatMap familyNames
  accepted : ∀ sub, sub ∈ s.accepted ↔ sub ∈ s.tried ∧ CanStand sub
  told : ∀ before entry after, s.entries = before ++ entry :: after →
    entry.outcome = verdict id (before.map (·.subsystem)) entry.subsystem

variable {s : Roster}

/-- A name of a subsystem is registered exactly if the subsystem is. -/
theorem Sound.isRegistered (h : s.Sound id) {name : String} (own : name ∈ familyNames subsystem) :
    (s.telemetry.registry id).isRegistered name = true ↔ subsystem ∈ s.accepted := by
  rw [Registry.isRegistered, h.claimed, List.contains_iff_mem, List.mem_flatMap]
  constructor
  · rintro ⟨other, member, named⟩
    exact eq_of_mem_familyNames own named ▸ member
  · exact fun member => ⟨subsystem, member, own⟩

/-- A registration comes to its verdict, and a refusal changes nothing. -/
theorem Sound.new (h : s.Sound id) (subsystem : String) :
    RequestMeter.new s.telemetry id subsystem =
      match verdict id s.tried subsystem with
      | .ok m => ((s.telemetry.enrol id (Collectors.ofSubsystem id subsystem).claims).note
          (.collectorsRegistered subsystem), .ok m)
      | .error e => (s.telemetry, .error e) := by
  have first : Name.qualify subsystem "requests_total" ∈ familyNames subsystem :=
    List.mem_cons_self
  by_cases stands : CanStand subsystem
  · by_cases again : subsystem ∈ s.tried
    · rw [verdict, if_pos stands, if_pos again]
      apply RequestMeter.new_of_refused
      rw [Registry.refusal?, if_pos ((isValid_familyNames first).mpr stands),
        if_pos ((h.isRegistered first).mpr ((h.accepted _).mpr ⟨again, stands⟩))]
    · rw [verdict, if_pos stands, if_neg again]
      apply RequestMeter.new_of_free
      intro name member
      have free : ¬ (s.telemetry.registry id).isRegistered name = true := by
        rw [h.isRegistered member]
        exact fun member => again ((h.accepted _).mp member).1
      rw [Registry.refusal?, if_pos ((isValid_familyNames member).mpr stands), if_neg free]
  · rw [verdict, if_neg stands]
    apply RequestMeter.new_of_refused
    rw [Registry.refusal?, if_neg (mt (isValid_familyNames first).mp stands)]

theorem tried_enter (s : Roster) (id : RegistryId) (subsystem : String) :
    (s.enter id subsystem).tried = s.tried ++ [subsystem] := List.map_append

theorem accepted_enter (s : Roster) (id : RegistryId) (subsystem : String) :
    (s.enter id subsystem).accepted = s.accepted ++
      if (RequestMeter.new s.telemetry id subsystem).2.isOk then [subsystem] else [] := by
  by_cases won : (RequestMeter.new s.telemetry id subsystem).2.isOk = true <;>
    simp [accepted, enter, won]

/-- A registration keeps the claims in step with what was tried. -/
theorem Sound.enter (h : s.Sound id) (subsystem : String) : (s.enter id subsystem).Sound id := by
  have new := h.new subsystem
  have accepted := s.accepted_enter id subsystem
  have told : ∀ before entry after, (s.enter id subsystem).entries = before ++ entry :: after →
      entry.outcome = verdict id (before.map (·.subsystem)) entry.subsystem := by
    have outcome :
        (RequestMeter.new s.telemetry id subsystem).2 = verdict id s.tried subsystem := by
      rw [new]
      cases verdict id s.tried subsystem <;> rfl
    exact forall_split_concat.mpr ⟨h.told, outcome⟩
  have telemetry : (s.enter id subsystem).telemetry =
      (RequestMeter.new s.telemetry id subsystem).1 := rfl
  have passed : (verdict id s.tried subsystem).isOk = true ↔
      CanStand subsystem ∧ subsystem ∉ s.tried := isOk_verdict
  cases decision : verdict id s.tried subsystem with
  | error e =>
      rw [decision] at new passed
      rw [new] at telemetry accepted
      replace accepted : (s.enter id subsystem).accepted = s.accepted :=
        accepted.trans (List.append_nil _)
      refine ⟨telemetry ▸ h.inside, ?_, ?_, told⟩
      · rw [telemetry, accepted]
        exact h.claimed
      · intro sub
        have refused : CanStand subsystem → subsystem ∈ s.tried := by
          intro stands
          by_contra first
          cases passed.mpr ⟨stands, first⟩
        rw [accepted, tried_enter, h.accepted, List.mem_append, List.mem_singleton]
        refine and_congr_left fun stands => (or_iff_left_of_imp ?_).symm
        intro same
        exact same ▸ refused (same ▸ stands)
  | ok m =>
      rw [decision] at new passed
      rw [new] at telemetry accepted
      replace accepted : (s.enter id subsystem).accepted = s.accepted ++ [subsystem] := accepted
      obtain ⟨stands, -⟩ := passed.mp rfl
      have registry : (s.enter id subsystem).telemetry.registry id =
          enrolAll (s.telemetry.registry id) (Collectors.ofSubsystem id subsystem).claims := by
        rw [telemetry]
        exact Telemetry.registry_enrol h.inside _
      refine ⟨?_, ?_, ?_, told⟩
      · rw [telemetry]
        exact h.inside.trans_eq List.length_set.symm
      · rw [registry, claimed_enrolAll, h.claimed, accepted, List.flatMap_append,
          List.flatMap_singleton]
        rfl
      · intro sub
        rw [accepted, tried_enter, List.mem_append, List.mem_append, h.accepted, or_and_right]
        refine or_congr_right (iff_self_and.mpr ?_)
        intro same
        exact List.mem_singleton.mp same ▸ stands

theorem Sound.enterAll (h : s.Sound id) (subsystems : List String) :
    (s.enterAll id subsystems).Sound id ∧
      (s.enterAll id subsystems).tried = s.tried ++ subsystems := by
  induction subsystems generalizing s with
  | nil => exact ⟨h, (List.append_nil _).symm⟩
  | cons subsystem subsystems ih =>
      obtain ⟨sound, tried⟩ := ih (h.enter subsystem)
      refine ⟨sound, tried.trans ?_⟩
      rw [tried_enter, List.append_assoc, List.singleton_append]

/-- The claims of a registry nothing was registered at. -/
theorem Sound.opened (t : Telemetry) (quantiles : List Float) :
    Sound (t.addRegistry { quantiles }).2 { telemetry := (t.addRegistry { quantiles }).1 } := by
  have fresh : (t.addRegistry { quantiles }).1.registry (t.addRegistry { quantiles }).2 =
      { quantiles } := by
    rw [Telemetry.registry, Telemetry.addRegistry, List.getElem?_concat_length, Option.getD_some]
  refine ⟨?_, ?_, ?_, ?_⟩
  · simp [Telemetry.addRegistry]
  · rw [fresh]
    rfl
  · intro sub
    exact iff_of_false List.not_mem_nil (fun member => List.not_mem_nil member.1)
  · intro before entry after split
    cases before <;> cases split

/-- What a sequence of registrations at one registry comes to. -/
structure Exact (id : RegistryId) (s : Roster) : Prop where
  /-- A registration succeeds if its subsystem can stand and was not tried before. -/
  succeeds : ∀ before entry after, s.entries = before ++ entry :: after →
    ((∃ m, entry.outcome = .ok m) ↔
      (entry.subsystem = "" ∨ Name.isValid entry.subsystem = true) ∧
        ∀ earlier ∈ before, earlier.subsystem ≠ entry.subsystem)
  /-- A refusal is about the counter of its subsystem. -/
  refused : ∀ entry ∈ s.entries, ∀ e, entry.outcome = .error e →
    e = if CanStand entry.subsystem then
        .alreadyRegistered (Name.qualify entry.subsystem "requests_total")
      else .invalidMetricName (Name.qualify entry.subsystem "requests_total")
  /-- A refusal changes nothing. -/
  unchanged : ∀ subsystem e, (RequestMeter.new s.telemetry id subsystem).2 = .error e →
    (s.enter id subsystem).telemetry = s.telemetry
  /-- What is registered are the families of the subsystems that have succeeded. -/
  registered : ∀ name, (s.telemetry.registry id).isRegistered name = true ↔
    ∃ entry ∈ s.entries, (∃ m, entry.outcome = .ok m) ∧ name ∈ familyNames entry.subsystem

/-- Where the claims are in step with what was tried, a sequence has come to what it should. -/
theorem Sound.exact (h : s.Sound id) : s.Exact id where
  succeeds := by
    intro before entry after split
    rw [← isOk_iff_exists, h.told before entry after split, isOk_verdict, CanStand]
    refine and_congr_right fun _ => ?_
    rw [List.mem_map]
    push Not
    rfl
  refused := by
    intro entry member e refused
    obtain ⟨before, after, split⟩ := List.append_of_mem member
    have told := refused.symm.trans (h.told before entry after split)
    by_cases stands : CanStand entry.subsystem
    · rw [if_pos stands]
      rw [verdict, if_pos stands] at told
      split at told
      · cases told
        rfl
      · cases told
    · rw [if_neg stands]
      rw [verdict, if_neg stands] at told
      cases told
      rfl
  unchanged := by
    intro subsystem e refused
    have telemetry : (s.enter id subsystem).telemetry =
        (RequestMeter.new s.telemetry id subsystem).1 := rfl
    have new := h.new subsystem
    cases decision : verdict id s.tried subsystem with
    | error e => rw [telemetry, new, decision]
    | ok m =>
        rw [new, decision] at refused
        cases refused
  registered := by
    intro name
    rw [Registry.isRegistered, h.claimed, List.contains_iff_mem, List.mem_flatMap]
    simp only [Roster.accepted, List.mem_map, List.mem_filter, isOk_iff_exists]
    constructor
    · rintro ⟨_, ⟨entry, ⟨member, won⟩, rfl⟩, own⟩
      exact ⟨entry, member, won, own⟩
    · rintro ⟨entry, member, won, own⟩
      exact ⟨_, ⟨entry, ⟨member, won⟩, rfl⟩, own⟩

end Roster

/-- Subsystems that are registered at a new registry one after the other: each that can stand is
registered when it first comes, every other registration is refused over the name of its counter and
changes nothing, and the families of the subsystems that were registered are what the registry has
claimed in the end. -/
theorem enterAll_exact (t : Telemetry) (quantiles : List Float) (subsystems : List String) :
    let (opened, id) := t.addRegistry { quantiles }
    let s := Roster.enterAll id { telemetry := opened } subsystems
    s.tried = subsystems ∧ s.Exact id := by
  obtain ⟨sound, tried⟩ := (Roster.Sound.opened t quantiles).enterAll subsystems
  exact ⟨tried, sound.exact⟩

end TrafficMeter.Routing
