import TrafficMeter.Proofs.Metric.WellFormed
import TrafficMeter.Proofs.Traffic.Claims

/-!
# Names as a page prints them

A page puts underscores in the places of a name where it has a character that may not stand there. A
name that can be claimed has no such character, so it is printed as it is, and no two claimed names
are printed under the same one. A name that nobody claimed may still be printed under a claimed one.

Main statement: `names_agree`, that the names which can be claimed are those that a page keeps, with
what follows for the claimed names of a registry and for the names of a subsystem.
-/

namespace TrafficMeter.Metric

/-! ## Names place by place -/

namespace Name

/-- What may stand at a place of a name: a letter of ASCII, an underscore, a colon, and after the
first place a digit. -/
def Allowed (place : Nat) (c : Char) : Prop :=
  'a' ≤ c ∧ c ≤ 'z' ∨ 'A' ≤ c ∧ c ≤ 'Z' ∨ c = '_' ∨ c = ':' ∨ 0 < place ∧ '0' ≤ c ∧ c ≤ '9'

instance (place : Nat) : DecidablePred (Allowed place) :=
  fun _ => inferInstanceAs (Decidable (_ ∨ _))

/-- A text shows a name with an underscore in each place where the name has a character that may not
stand there. -/
def Mended (name shown : String) : Prop :=
  ∀ place : Nat, shown.toList[place]? =
    name.toList[place]?.map fun c => if Allowed place c then c else '_'

theorem isAlpha_iff {c : Char} : c.isAlpha = true ↔ 'a' ≤ c ∧ c ≤ 'z' ∨ 'A' ≤ c ∧ c ≤ 'Z' := by
  change (decide ('A' ≤ c ∧ c ≤ 'Z') || decide ('a' ≤ c) && decide (c ≤ 'z')) = true ↔ _
  rw [Bool.or_eq_true, Bool.and_eq_true, decide_eq_true_eq, decide_eq_true_eq, decide_eq_true_eq,
    or_comm]

theorem isDigit_iff {c : Char} : c.isDigit = true ↔ '0' ≤ c ∧ c ≤ '9' := by
  change (decide ('0' ≤ c) && decide (c ≤ '9')) = true ↔ _
  rw [Bool.and_eq_true, decide_eq_true_eq, decide_eq_true_eq]

theorem isStart_iff {c : Char} : isStart c = true ↔ Allowed 0 c := by
  simp only [isStart, Bool.or_eq_true, beq_iff_eq, isAlpha_iff, Allowed, Nat.lt_irrefl, false_and,
    or_false, or_assoc]

theorem isRest_iff {place : Nat} {c : Char} : isRest c = true ↔ Allowed (place + 1) c := by
  simp only [isRest, Char.isAlphanum, Bool.or_eq_true, beq_iff_eq, isAlpha_iff, isDigit_iff,
    Allowed, Nat.zero_lt_succ, true_and]
  tauto

/-- What a page prints for a name, place by place. -/
theorem mended_iff {name shown : String} : Mended name shown ↔ shown = sanitize name := by
  have places : ∀ place : Nat, (sanitizeChars name.toList)[place]? =
      name.toList[place]?.map fun c => if Allowed place c then c else '_' := by
    intro place
    cases name.toList with
    | nil => rfl
    | cons c rest =>
        cases place with
        | zero => exact congrArg some (if_congr isStart_iff rfl rfl)
        | succ place =>
            have later : mend isRest = fun c => if Allowed (place + 1) c then c else '_' :=
              funext fun c => if_congr isRest_iff rfl rfl
            rw [sanitizeChars, List.getElem?_cons_succ, List.getElem?_cons_succ, List.getElem?_map,
              later]
  constructor
  · intro mended
    rw [sanitize, ← String.toList_inj, String.toList_ofList]
    apply List.ext_getElem?
    intro place
    rw [mended, places]
  · rintro rfl place
    rw [sanitize, String.toList_ofList, places]

/-- The names that can be claimed are those that a page keeps. -/
theorem isValid_iff {name : String} : isValid name = true ↔ name ≠ "" ∧ sanitize name = name := by
  rw [sanitize_eq_self_iff]
  constructor
  · intro valid
    refine ⟨?_, .inr valid⟩
    rintro rfl
    cases valid
  · rintro ⟨some, kept⟩
    exact kept.resolve_left some

end Name

/-! ## Names on a page -/

/-- A registry with the series of one name and no others. -/
def Registry.only (r : Registry) (name : String) : Registry :=
  { r with
    counters := r.counters.filter (·.1.name = name)
    gauges := r.gauges.filter (·.1.name = name)
    summaries := r.summaries.filter (·.1.name = name) }

/-- Among the series of a registry is one of the name. -/
def Registry.HasSeries (r : Registry) (name : String) : Prop :=
  (∃ e ∈ r.counters, e.1.name = name) ∨ (∃ e ∈ r.gauges, e.1.name = name) ∨
    ∃ e ∈ r.summaries, e.1.name = name

/-- The names of the families of a page. -/
def Page.names (p : Page) : List String := p.map (·.name)

/-- Among the series of a name are some that a page prints in a family which is called so. -/
def Registry.PrintsUnder (r : Registry) (name shown : String) : Prop :=
  shown ∈ (Page.ofRegistry (r.only name)).names

/-- A registry whose claimed names are kept apart on its page. -/
structure Registry.PrintsApart (r : Registry) : Prop where
  /-- A name with series is printed under what becomes of it, and under nothing else. -/
  under : ∀ name shown, r.PrintsUnder name shown ↔ shown = Name.sanitize name ∧ r.HasSeries name
  /-- The page has the families that its names are printed under. -/
  names : ∀ shown, shown ∈ (Page.ofRegistry r).names ↔ ∃ name, r.PrintsUnder name shown
  apart : ∀ a b, r.isRegistered a = true → r.isRegistered b = true → a ≠ b →
    Name.sanitize a ≠ Name.sanitize b ∧
      ∀ shown, r.PrintsUnder a shown → ¬ r.PrintsUnder b shown

namespace Registry

variable {r : Registry} {name shown : String}

theorem mem_names_iff : shown ∈ (Page.ofRegistry r).names ↔
    (∃ e ∈ r.counters, Name.sanitize e.1.name = shown) ∨
      (∃ e ∈ r.gauges, Name.sanitize e.1.name = shown) ∨
        ∃ e ∈ r.summaries, Name.sanitize e.1.name = shown := by
  have summaries : (∃ e ∈ r.summaries.map fun e => (e.1, e.2.toList),
      Name.sanitize e.1.name = shown) ↔ ∃ e ∈ r.summaries, Name.sanitize e.1.name = shown := by
    simp
  rw [Page.names, Page.ofRegistry, List.map_append, List.map_append, List.mem_append,
    List.mem_append, (Page.names_families ..).2, (Page.names_families ..).2,
    (Page.names_families ..).2, summaries, or_assoc]

theorem printsUnder_iff :
    r.PrintsUnder name shown ↔ shown = Name.sanitize name ∧ r.HasSeries name := by
  have own : ∀ {α : Type} (t : Table α),
      (∃ e ∈ t.filter (·.1.name = name), Name.sanitize e.1.name = shown) ↔
        shown = Name.sanitize name ∧ ∃ e ∈ t, e.1.name = name := by
    intro α t
    constructor
    · intro ⟨e, member, printed⟩
      obtain ⟨inside, same⟩ := List.mem_filter.mp member
      obtain rfl : e.1.name = name := of_decide_eq_true same
      exact ⟨printed.symm, e, inside, rfl⟩
    · intro ⟨printed, e, inside, same⟩
      exact ⟨e, List.mem_filter.mpr ⟨inside, decide_eq_true same⟩, by rw [same, printed]⟩
  rw [PrintsUnder, mem_names_iff]
  simp only [only, own, ← and_or_left, HasSeries]

/-- A page has the families that the names of its series are printed under. -/
theorem mem_names_iff_exists :
    shown ∈ (Page.ofRegistry r).names ↔ ∃ name, r.PrintsUnder name shown := by
  have named : ∀ {α : Type} (t : Table α), (∃ e ∈ t, Name.sanitize e.1.name = shown) ↔
      ∃ name, shown = Name.sanitize name ∧ ∃ e ∈ t, e.1.name = name := by
    intro α t
    constructor
    · intro ⟨e, inside, printed⟩
      exact ⟨e.1.name, printed.symm, e, inside, rfl⟩
    · intro ⟨name, printed, e, inside, same⟩
      exact ⟨e, inside, by rw [same, printed]⟩
  simp only [mem_names_iff, printsUnder_iff, HasSeries, named, and_or_left, exists_or]

/-- A registry whose claimed names are all valid keeps them apart on its page. -/
theorem printsApart_of_valid (valid : ∀ name ∈ r.claimed, Name.isValid name = true) :
    r.PrintsApart := by
  have kept : ∀ name, r.isRegistered name = true → Name.sanitize name = name := by
    intro name registered
    exact (Name.isValid_iff.mp (valid name (List.contains_iff_mem.mp registered))).2
  refine ⟨fun _ _ => printsUnder_iff, fun _ => mem_names_iff_exists, ?_⟩
  intro a b first second differ
  constructor
  · rw [kept a first, kept b second]
    exact differ
  · intro shown printed again
    apply differ
    have one := (printsUnder_iff.mp printed).1
    have other := (printsUnder_iff.mp again).1
    rw [← kept a first, ← one, other, kept b second]

end Registry

end TrafficMeter.Metric

namespace TrafficMeter.Traffic

open TrafficMeter.Metric

theorem lasting_valid : Lasting fun r => ∀ name ∈ r.claimed, Name.isValid name = true where
  claim all valid := by
    intro name member
    rcases List.mem_append.mp member with old | new
    · exact all name old
    · rw [List.mem_singleton.mp new]
      exact valid
  apply w all := by
    rw [Registry.apply_claimed]
    exact all
  tally all := all

/-- The names that can be claimed are the ones, but for the empty one, that a page keeps, where
whatever may not stand at its place is replaced. So whatever is done in a process, the names that
were claimed at a registry are printed apart. Which of its four names a subsystem can claim depends
on the subsystem alone. -/
theorem names_agree {t : Telemetry} {id : RegistryId} {r : Registry}
    (there : t.registries[id]? = some r) (new : r.claimed = []) :
    (∀ name, (∀ shown, Name.Mended name shown ↔ shown = Name.sanitize name) ∧
      (Name.isValid name = true ↔ name ≠ "" ∧ Name.sanitize name = name)) ∧
    (∀ acts, ((History.run { telemetry := t } acts).telemetry.registry id).PrintsApart) ∧
    ∀ subsystem, ∀ f ∈ (Collectors.ofSubsystem id subsystem).claims,
      (Name.isValid f.name = true ↔ subsystem = "" ∨ Name.isValid subsystem = true) := by
  refine ⟨fun name => ⟨fun shown => Name.mended_iff, Name.isValid_iff⟩, ?_, ?_⟩
  · intro acts
    apply Registry.printsApart_of_valid
    apply History.run_lasting lasting_valid there
    rw [new]
    exact List.forall_mem_nil _
  · intro subsystem f member
    rw [Collectors.isValid_claims id subsystem f member, Bool.or_eq_true, String.isEmpty_iff]

/-- Two names that differ by a colon are printed apart. A series of a name that was not claimed is
printed under the second of them. -/
theorem names_agree_colon :
    let t : Telemetry := { registries := [Registry.empty] }
    let requests : FamilyClaim := ⟨.counter, "app:requests", ""⟩
    let times : FamilyClaim := ⟨.summary, "app_requests", ""⟩
    let acts : List History.Act := [.on 0 (.claim requests), .on 0 (.claim times),
      .on 0 (.write (.add ⟨"app:requests", []⟩ 1)), .on 0 (.proceed 1), .on 0 (.proceed 1),
      .on 0 (.record (.add ⟨"app.requests", []⟩ 1))]
    let r := (History.run { telemetry := t } acts).telemetry.registry 0
    t.registries[0]? = some Registry.empty ∧ Registry.empty.claimed = [] ∧
      r.claimed = ["app:requests", "app_requests"] ∧ r.PrintsApart ∧
        r.PrintsUnder "app_requests" "app_requests" ∧
          r.PrintsUnder "app.requests" "app_requests" := by
  intro t requests times acts r
  have there : t.registries[0]? = some Registry.empty := rfl
  have new : Registry.empty.claimed = [] := rfl
  have claimed : r.claimed = ["app:requests", "app_requests"] := by decide +kernel
  refine ⟨there, new, claimed, (names_agree there new).2.1 acts, ?_, ?_⟩
  · exact List.mem_of_elem_eq_true (by decide +kernel)
  · exact List.mem_of_elem_eq_true (by decide +kernel)

end TrafficMeter.Traffic
