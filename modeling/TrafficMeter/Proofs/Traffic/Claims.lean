import Mathlib.Logic.Function.Basic
import TrafficMeter.Proofs.Traffic.Places
import TrafficMeter.Proofs.Traffic.Registration

/-!
# Claims over a whole history

The registries of a process are used from many places at the same time. A registration claims its
name in one update; its help text and its series follow in updates of their own, and updates from
elsewhere may come in between, other registrations of the same name among them. What a registration
is told is kept here with the registry that it was made at.

Main statement: `run_exact`, that what each registration of a history is told and which names are
registered depends on the registrations before it that succeeded at the same registry, and on
nothing else.
-/

namespace TrafficMeter.Traffic

open TrafficMeter.Metric

/-! ## A registration as updates -/

/-- Claims a name and nothing else. -/
def Telemetry.claim (t : Telemetry) (id : RegistryId) (name : String) :
    Telemetry × Except MeterError Unit :=
  match (t.registry id).claim name with
  | .ok r => (t.noteClaims id r, .ok ())
  | .error e => (t, .error e)

/-- Claims a family in one call. -/
def Telemetry.register (t : Telemetry) (id : RegistryId) (f : FamilyClaim) :
    Telemetry × Except MeterError Unit :=
  match f.kind with
  | .summary => t.registerSummary id f.name f.help
  | .counter | .gauge => t.registerCounter id f.name f.help

/-- The updates that give a family whose name is claimed its help text and its series. -/
def FamilyClaim.writes (f : FamilyClaim) : List Write :=
  match f.kind with
  | .summary => [.describe f.name f.help, .sample ⟨f.name, []⟩ []]
  | .counter | .gauge => [.describe f.name f.help]

/-- What a registration is told where some names are taken. -/
def verdict (taken : List String) (name : String) : Except MeterError Unit :=
  if Name.isValid name then
    if name ∈ taken then .error (.alreadyRegistered name) else .ok ()
  else .error (.invalidMetricName name)

theorem verdict_eq_ok_iff {taken : List String} {name : String} :
    verdict taken name = .ok () ↔ Name.isValid name = true ∧ name ∉ taken := by
  unfold verdict
  by_cases valid : Name.isValid name = true <;> by_cases member : name ∈ taken <;>
    simp [valid, member]

/-- A claim adds its name and a note, or changes nothing. -/
theorem Telemetry.claim_eq (t : Telemetry) (id : RegistryId) (name : String) :
    t.claim id name = match verdict (t.registry id).claimed name with
      | .ok () =>
          let r := t.registry id
          ((t.setRegistry id { r with claimed := r.claimed ++ [name] }).note
            (.metricRegistered name), .ok ())
      | .error e => (t, .error e) := by
  unfold claim verdict Registry.claim Registry.isRegistered
  by_cases valid : Name.isValid name = true
  · by_cases member : name ∈ (t.registry id).claimed
    · simp [valid, member]
    · simp [valid, member, noteClaims]
  · simp [valid]

theorem Telemetry.write_setRegistry (t : Telemetry) (id : RegistryId) (r : Registry) (w : Write) :
    (t.setRegistry id r).write id w = t.setRegistry id (r.apply w) := by
  by_cases inside : id < t.registries.length
  · simp [write, setRegistry, registry, inside]
  · have outside : ∀ r, t.registries.set id r = t.registries := fun r =>
      List.set_eq_of_length_le (Nat.le_of_not_lt inside)
    simp [write, setRegistry, outside]

theorem Telemetry.writes_setRegistry (t : Telemetry) (id : RegistryId) (r : Registry)
    (ws : List Write) :
    ws.foldl (fun t w => t.write id w) (t.setRegistry id r) = t.setRegistry id (r.applyAll ws) := by
  induction ws generalizing r with
  | nil => rfl
  | cons w ws ih =>
      rw [List.foldl_cons, write_setRegistry, ih]
      rfl

/-- A registration that nothing comes between is a claim and its updates. -/
theorem Telemetry.register_eq (t : Telemetry) (id : RegistryId) (f : FamilyClaim) :
    t.register id f = match t.claim id f.name with
      | (t, .ok ()) => (f.writes.foldl (fun t w => t.write id w) t, .ok ())
      | (t, .error e) => (t, .error e) := by
  have whole : t.register id f = match f.register (t.registry id) with
      | .ok r => (t.noteClaims id r, .ok ())
      | .error e => (t, .error e) := by
    unfold register FamilyClaim.register
    cases f.kind <;> rfl
  have enrolled : ∀ r : Registry,
      f.enrol r = { r with claimed := r.claimed ++ [f.name] }.applyAll f.writes := by
    intro r
    unfold FamilyClaim.enrol FamilyClaim.writes
    cases f.kind <;> rfl
  have told : (t.registry id).refusal? f.name = match verdict (t.registry id).claimed f.name with
      | .ok () => none
      | .error e => some e := by
    unfold Registry.refusal? verdict Registry.isRegistered
    by_cases valid : Name.isValid f.name = true <;>
      by_cases member : f.name ∈ (t.registry id).claimed <;> simp [valid, member]
  rw [whole, f.register_eq, told, claim_eq]
  cases verdict (t.registry id).claimed f.name with
  | error e => rfl
  | ok _ =>
      have noted := t.noteClaims_enrolAll id [f]
      have written := (t.note (.metricRegistered f.name)).writes_setRegistry id
        { t.registry id with claimed := (t.registry id).claimed ++ [f.name] } f.writes
      rw [← enrolled] at written
      exact Prod.ext (noted.trans written.symm) rfl

/-! ## Histories -/

/-- A registration that was tried, and what it was told. -/
structure Trial where
  family : FamilyClaim
  outcome : Except MeterError Unit
deriving DecidableEq

/-- The names that were claimed by registrations, in their order. -/
def granted (trials : List Trial) : List String :=
  (trials.filter (·.outcome.isOk)).map (·.family.name)

/-- A process with the registrations that were tried at each registry, the oldest first, and the
updates that are left of those that have succeeded. -/
structure History where
  telemetry : Telemetry
  trials : RegistryId → List Trial := fun _ => []
  pending : RegistryId → List (List Write) := fun _ => []

namespace History

/-- What is done at one registry. -/
inductive Call where
  /-- A registration begins by claiming its name. -/
  | claim (family : FamilyClaim)
  /-- A registration that has claimed its name makes its next update. -/
  | proceed (which : Nat)
  /-- A series is got or written to. -/
  | write (w : Write)
  /-- The same through the recorder interface. -/
  | record (w : Write)
  /-- A page is made. -/
  | render

/-- What is done in a process. -/
inductive Act where
  | on (id : RegistryId) (call : Call)
  | openRegistry (r : Registry)
  | install (id : RegistryId)
  | emit (w : Write)

/-- Carries out what is done at one registry. -/
def call (s : History) (id : RegistryId) : Call → History
  | .claim family =>
      let (telemetry, outcome) := s.telemetry.claim id family.name
      let left := if outcome.isOk then [family.writes] else []
      { telemetry
        trials := Function.update s.trials id (s.trials id ++ [⟨family, outcome⟩])
        pending := Function.update s.pending id (s.pending id ++ left) }
  | .proceed which =>
      match (s.pending id)[which]? with
      | some (w :: left) =>
          { s with
            telemetry := s.telemetry.write id w
            pending := Function.update s.pending id ((s.pending id).set which left) }
      | _ => s
  | .write w => { s with telemetry := s.telemetry.write id w }
  | .record w => { s with telemetry := s.telemetry.record id w }
  | .render => { s with telemetry := s.telemetry.tally id }

def step (s : History) : Act → History
  | .on id call => s.call id call
  | .openRegistry r => { s with telemetry := (s.telemetry.addRegistry r).1 }
  | .install id => { s with telemetry := (s.telemetry.install id).1 }
  | .emit w => { s with telemetry := s.telemetry.emit w }

def run (s : History) (acts : List Act) : History := acts.foldl step s

end History

/-! ## What is told -/

/-- Every registration was told what those before it imply. -/
def Consequent (trials : List Trial) : Prop :=
  ∀ before trial after, trials = before ++ trial :: after →
    trial.outcome = verdict (granted before) trial.family.name

/-- What holds at each place of a list with one more entry holds at each place of the list, and of
the entry after it. -/
theorem forall_split_concat {α : Type} {P : List α → α → Prop} {l : List α} {a : α} :
    (∀ before x after, l ++ [a] = before ++ x :: after → P before x) ↔
      (∀ before x after, l = before ++ x :: after → P before x) ∧ P l a := by
  constructor
  · intro h
    refine ⟨fun before x after split => ?_, h l a [] rfl⟩
    exact h before x (after ++ [a]) (by rw [split]; simp)
  · rintro ⟨h, last⟩ before x after split
    rcases List.eq_nil_or_concat after with rfl | ⟨more, b, rfl⟩
    · obtain ⟨rfl, same⟩ := List.append_inj' split rfl
      cases same
      exact last
    · rw [List.concat_eq_append, ← List.cons_append, ← List.append_assoc] at split
      exact h before x more (List.append_inj' split rfl).1

theorem consequent_concat {trials : List Trial} {trial : Trial} :
    Consequent (trials ++ [trial]) ↔
      Consequent trials ∧ trial.outcome = verdict (granted trials) trial.family.name :=
  forall_split_concat (P := fun before trial =>
    trial.outcome = verdict (granted before) trial.family.name)

theorem mem_granted {trials : List Trial} {name : String} :
    name ∈ granted trials ↔
      ∃ trial ∈ trials, trial.family.name = name ∧ trial.outcome = .ok () := by
  have won : ∀ outcome : Except MeterError Unit, outcome.isOk = true ↔ outcome = .ok () := by
    intro outcome
    cases outcome <;> simp [Except.isOk, Except.toBool]
  simp only [granted, List.mem_map, List.mem_filter, won, and_assoc]
  exact exists_congr fun trial => and_congr_right fun _ => and_comm

theorem granted_concat (trials : List Trial) (trial : Trial) :
    granted (trials ++ [trial]) =
      granted trials ++ if trial.outcome.isOk then [trial.family.name] else [] := by
  by_cases won : trial.outcome.isOk = true <;> simp [granted, won]

/-- No two registrations of a name have succeeded. -/
theorem Consequent.nodup {trials : List Trial} (h : Consequent trials) :
    (granted trials).Nodup := by
  induction trials using List.reverseRecOn with
  | nil => exact List.nodup_nil
  | append_singleton trials trial ih =>
      obtain ⟨earlier, told⟩ := consequent_concat.mp h
      rw [granted_concat]
      split
      · next won =>
          rw [told] at won
          have free : trial.family.name ∉ granted trials := by
            intro taken
            unfold verdict at won
            rw [if_pos taken] at won
            split at won <;> cases won
          exact List.nodup_append.mpr ⟨ih earlier, List.nodup_singleton _, by
            rintro name member other hother rfl
            exact free (List.mem_singleton.mp hother ▸ member)⟩
      · rw [List.append_nil]
        exact ih earlier

/-- A valid name is claimed once a registration of it was tried. -/
theorem Consequent.mem_granted {trials : List Trial} (h : Consequent trials) {trial : Trial}
    (member : trial ∈ trials) (valid : Name.isValid trial.family.name = true) :
    trial.family.name ∈ granted trials := by
  obtain ⟨before, after, rfl⟩ := List.append_of_mem member
  have told := h before trial after rfl
  by_cases taken : trial.family.name ∈ granted before
  · obtain ⟨winner, earlier, same, won⟩ := Traffic.mem_granted.mp taken
    exact Traffic.mem_granted.mpr ⟨winner, List.mem_append_left _ earlier, same, won⟩
  · rw [verdict_eq_ok_iff.mpr ⟨valid, taken⟩] at told
    exact Traffic.mem_granted.mpr ⟨trial, member, rfl, told⟩

/-- Of the registrations of a valid name exactly one has succeeded, if there were any. -/
theorem Consequent.once {trials : List Trial} (h : Consequent trials) {trial : Trial}
    (member : trial ∈ trials) (valid : Name.isValid trial.family.name = true) :
    trials.countP
      (fun other => other.family.name = trial.family.name ∧ other.outcome.isOk) = 1 := by
  have once := List.count_eq_one_of_mem h.nodup (h.mem_granted member valid)
  rw [granted, List.count, List.countP_map, List.countP_filter] at once
  rw [← once]
  congr 1
  funext other
  rw [Bool.decide_and, Bool.decide_eq_true]
  rfl

/-! ## One registry of a history -/

/-- A registry with the registrations that were tried at it and the updates that are left. -/
structure Desk where
  registry : Registry
  trials : List Trial
  pending : List (List Write)

namespace Desk

/-- What is done at the registry itself. -/
def call (d : Desk) : History.Call → Desk
  | .claim family =>
      match verdict d.registry.claimed family.name with
      | .ok () =>
          { registry := { d.registry with claimed := d.registry.claimed ++ [family.name] }
            trials := d.trials ++ [⟨family, .ok ()⟩]
            pending := d.pending ++ [family.writes] }
      | .error e => { d with trials := d.trials ++ [⟨family, .error e⟩] }
  | .proceed which =>
      match d.pending[which]? with
      | some (w :: left) =>
          { d with registry := d.registry.apply w, pending := d.pending.set which left }
      | _ => d
  | .write w | .record w => { d with registry := d.registry.apply w }
  | .render => { d with registry := d.registry.tally }

/-- The claims of a registry are those of the registrations that have succeeded. -/
structure Sound (d : Desk) : Prop where
  claimed : d.registry.claimed = granted d.trials
  consequent : Consequent d.trials

theorem Sound.write {d : Desk} (h : d.Sound) (w : Write) :
    Sound { d with registry := d.registry.apply w } where
  claimed := (d.registry.apply_claimed w).trans h.claimed
  consequent := h.consequent

theorem Sound.call {d : Desk} (h : d.Sound) (c : History.Call) : (d.call c).Sound := by
  cases c with
  | claim family =>
      rw [Desk.call]
      split
      · next won =>
          refine ⟨?_, consequent_concat.mpr ⟨h.consequent, ?_⟩⟩
          · simp only [granted_concat, h.claimed]
            rfl
          · rw [← h.claimed, won]
      · next e refused =>
          refine ⟨?_, consequent_concat.mpr ⟨h.consequent, ?_⟩⟩
          · simp only [granted_concat, h.claimed]
            exact (List.append_nil _).symm
          · rw [← h.claimed, refused]
  | proceed which =>
      rw [Desk.call]
      split
      · exact ⟨(d.registry.apply_claimed _).trans h.claimed, h.consequent⟩
      · exact h
  | write w => exact h.write w
  | record w => exact h.write w
  | render => exact ⟨h.claimed, h.consequent⟩

end Desk

/-- A property of registries that lasts: no claim of a name, no write and no page takes it away. -/
structure Lasting (P : Registry → Prop) : Prop where
  claim : ∀ {r : Registry} {name : String}, P r → Name.isValid name = true →
    P { r with claimed := r.claimed ++ [name] }
  apply : ∀ {r : Registry} (w : Write), P r → P (r.apply w)
  tally : ∀ {r : Registry}, P r → P r.tally

theorem Lasting.call {P : Registry → Prop} (lasting : Lasting P) {d : Desk} (h : P d.registry)
    (c : History.Call) : P (d.call c).registry := by
  cases c with
  | claim family =>
      rw [Desk.call]
      split
      · next won => exact lasting.claim h (verdict_eq_ok_iff.mp won).1
      · exact h
  | proceed which =>
      rw [Desk.call]
      split
      · exact lasting.apply _ h
      · exact h
  | write w | record w => exact lasting.apply w h
  | render => exact lasting.tally h

namespace History

/-- A registry of a history, if there is one at the place. -/
def desk? (s : History) (place : RegistryId) : Option Desk :=
  (s.telemetry.registries[place]?).map fun r => ⟨r, s.trials place, s.pending place⟩

theorem desk?_eq_some {s : History} {place : RegistryId} {d : Desk} :
    s.desk? place = some d ↔ s.telemetry.registries[place]? = some d.registry ∧
      s.trials place = d.trials ∧ s.pending place = d.pending := by
  rw [desk?, Option.map_eq_some_iff]
  constructor
  · rintro ⟨r, there, rfl⟩
    exact ⟨there, rfl, rfl⟩
  · rintro ⟨there, trials, pending⟩
    exact ⟨d.registry, there, by rw [trials, pending]⟩

theorem registry_of_desk? {s : History} {place : RegistryId} {d : Desk}
    (h : s.desk? place = some d) : s.telemetry.registry place = d.registry := by
  rw [Telemetry.registry, (desk?_eq_some.mp h).1]
  rfl

/-- What is done at a registry is done there. -/
theorem desk?_call {s : History} {id : RegistryId} {d : Desk} (h : s.desk? id = some d) (c : Call) :
    (s.call id c).desk? id = some (d.call c) := by
  have known := registry_of_desk? h
  obtain ⟨there, trials, pending⟩ := desk?_eq_some.mp h
  have changed : ∀ f : Registry → Registry,
      (s.telemetry.setRegistry id (f (s.telemetry.registry id))).registries[id]? =
        some (f d.registry) := by
    intro f
    rw [Telemetry.registries_change, there, Option.map_some, if_pos rfl]
  cases c with
  | claim family =>
      rw [call, s.telemetry.claim_eq, known, Desk.call]
      cases verdict d.registry.claimed family.name with
      | error e =>
          refine desk?_eq_some.mpr ⟨there, ?_, ?_⟩
          · exact (Function.update_self ..).trans (by rw [trials])
          · exact (Function.update_self ..).trans (by rw [pending]; exact List.append_nil _)
      | ok _ =>
          refine desk?_eq_some.mpr ⟨?_, ?_, ?_⟩
          · exact known ▸ changed fun r => { r with claimed := r.claimed ++ [family.name] }
          · exact (Function.update_self ..).trans (by rw [trials])
          · exact (Function.update_self ..).trans (by rw [pending]; rfl)
  | proceed which =>
      rw [call, Desk.call, ← pending]
      split
      · next w left _ =>
          exact desk?_eq_some.mpr ⟨changed (·.apply w), trials, Function.update_self ..⟩
      · exact h
  | write w => exact desk?_eq_some.mpr ⟨changed (·.apply w), trials, pending⟩
  | record w =>
      refine desk?_eq_some.mpr ⟨?_, trials, pending⟩
      rw [call, Telemetry.registries_record, there, Option.map_some, if_pos rfl]
      rfl
  | render => exact desk?_eq_some.mpr ⟨changed Registry.tally, trials, pending⟩

/-- What is done at a registry is done nowhere else. -/
theorem desk?_elsewhere {id place : RegistryId} (apart : id ≠ place) (s : History) (c : Call) :
    (s.call id c).desk? place = s.desk? place := by
  have untouched : ∀ f : Registry → Registry,
      (s.telemetry.setRegistry id (f (s.telemetry.registry id))).registries[place]? =
        s.telemetry.registries[place]? := by
    intro f
    rw [Telemetry.registries_set, if_neg (Ne.symm apart)]
  have kept : ∀ u : History, u.telemetry.registries[place]? = s.telemetry.registries[place]? →
      u.trials place = s.trials place → u.pending place = s.pending place →
      u.desk? place = s.desk? place := by
    intro u registries trials pending
    rw [desk?, desk?, registries, trials, pending]
  have beside : ∀ {β : Type} (g : RegistryId → β) (b : β), Function.update g id b place = g place :=
    fun g b => Function.update_of_ne (Ne.symm apart) b g
  cases c with
  | claim family =>
      rw [call, s.telemetry.claim_eq]
      cases verdict (s.telemetry.registry id).claimed family.name with
      | error e => exact kept _ rfl (beside ..) (beside ..)
      | ok _ =>
          refine kept _ ?_ (beside ..) (beside ..)
          exact untouched fun r => { r with claimed := r.claimed ++ [family.name] }
  | proceed which =>
      rw [call]
      split
      · exact kept _ (untouched (·.apply _)) rfl (beside ..)
      · rfl
  | write w => exact kept _ (untouched (·.apply w)) rfl rfl
  | record w =>
      refine kept _ ?_ rfl rfl
      rw [call, Telemetry.registries_record]
      simp [apart]
  | render => exact kept _ (untouched Registry.tally) rfl rfl

theorem recorder_call (s : History) (id : RegistryId) (c : Call) :
    (s.call id c).telemetry.recorder = s.telemetry.recorder := by
  cases c with
  | claim family =>
      rw [call, s.telemetry.claim_eq]
      cases verdict (s.telemetry.registry id).claimed family.name <;> rfl
  | proceed which =>
      rw [call]
      split <;> rfl
  | record w =>
      rw [call, Telemetry.record]
      split
      · split <;> rfl
      · rfl
  | write w => rfl
  | render => rfl

/-! ## Runs -/

/-- Whether something is done at a registry or for the whole process. -/
def Act.concerns (place : RegistryId) : Act → Bool
  | .on id _ => id = place
  | .openRegistry _ => false
  | .install _ | .emit _ => true

/-- The registry that records for the process after a step: the first one stays. -/
def Act.recorder (before : Option RegistryId) : Act → Option RegistryId
  | .install id => before.or (some id)
  | _ => before

/-- What a step does to the registry at a place. -/
def Act.atDesk (place : RegistryId) (recorder : Option RegistryId) (d : Desk) : Act → Desk
  | .on id c => if id = place then d.call c else d
  | .emit w => if recorder = some place then d.call (.record w) else d
  | .openRegistry _ | .install _ => d

theorem recorder_step (s : History) (act : Act) :
    (s.step act).telemetry.recorder = act.recorder s.telemetry.recorder := by
  cases act with
  | on id c => exact recorder_call s id c
  | openRegistry r => rfl
  | install id =>
      rw [step, Telemetry.install, Act.recorder]
      cases recorder : s.telemetry.recorder with
      | none => rfl
      | some first => exact recorder
  | emit w => exact Telemetry.recorder_emit s.telemetry w

theorem desk?_step {s : History} {place : RegistryId} {d : Desk} (h : s.desk? place = some d)
    (act : Act) :
    (s.step act).desk? place = some (act.atDesk place s.telemetry.recorder d) := by
  cases act with
  | on id c =>
      rw [step, Act.atDesk]
      split
      · next here => exact here ▸ desk?_call (here ▸ h) c
      · next apart => exact (desk?_elsewhere apart s c).trans h
  | openRegistry r =>
      obtain ⟨there, trials, pending⟩ := desk?_eq_some.mp h
      obtain ⟨inside, -⟩ := List.getElem?_eq_some_iff.mp there
      refine desk?_eq_some.mpr ⟨?_, trials, pending⟩
      exact (List.getElem?_append_left inside).trans there
  | install id =>
      rw [step, Telemetry.install]
      cases s.telemetry.recorder <;> exact h
  | emit w =>
      rw [step, Telemetry.emit, Act.atDesk]
      cases recorder : s.telemetry.recorder with
      | none => exact h
      | some id =>
          by_cases here : id = place
          · subst here
            rw [if_pos rfl]
            exact desk?_call h (.record w)
          · rw [if_neg fun same => here (Option.some.inj same)]
            exact (desk?_elsewhere here s (.record w)).trans h

/-- What every call at a registry keeps, a step of the process keeps. -/
theorem kept_step {P : Desk → Prop} (kept : ∀ {d : Desk} (c : Call), P d → P (d.call c))
    {s : History} {place : RegistryId} {d : Desk} (h : P d) (act : Act) :
    P (act.atDesk place s.telemetry.recorder d) := by
  cases act with
  | on id c =>
      rw [Act.atDesk]
      split
      · exact kept c h
      · exact h
  | emit w =>
      rw [Act.atDesk]
      split
      · exact kept (.record w) h
      · exact h
  | openRegistry r => exact h
  | install id => exact h

/-- What every call at a registry keeps holds there after any run. -/
theorem run_kept {P : Desk → Prop} (kept : ∀ {d : Desk} (c : Call), P d → P (d.call c))
    {s : History} {place : RegistryId} {d : Desk} (there : s.desk? place = some d) (h : P d)
    (acts : List Act) : ∃ d, (s.run acts).desk? place = some d ∧ P d := by
  induction acts generalizing s d with
  | nil => exact ⟨d, there, h⟩
  | cons act acts ih => exact ih (desk?_step there act) (kept_step kept h act)

/-- What lasts holds of a registry after any run if it held at its beginning. -/
theorem run_lasting {P : Registry → Prop} (lasting : Lasting P) {t : Telemetry} {id : RegistryId}
    {r : Registry} (there : t.registries[id]? = some r) (start : P r) (acts : List Act) :
    P ((run { telemetry := t } acts).telemetry.registry id) := by
  have desk : desk? { telemetry := t } id = some ⟨r, [], []⟩ :=
    desk?_eq_some.mpr ⟨there, rfl, rfl⟩
  obtain ⟨d, found, holds⟩ := run_kept (P := fun d => P d.registry)
    (fun c h => lasting.call h c) desk start acts
  rw [registry_of_desk? found]
  exact holds

/-- What is done at other registries changes neither a registry nor what is told there. -/
theorem run_concerns {s u : History} {place : RegistryId} {d : Desk}
    (there : s.desk? place = some d) (here : u.desk? place = some d)
    (same : s.telemetry.recorder = u.telemetry.recorder) (acts : List Act) :
    (s.run acts).desk? place = (u.run (acts.filter (Act.concerns place))).desk? place := by
  induction acts generalizing s u d with
  | nil => exact there.trans here.symm
  | cons act acts ih =>
      have next := desk?_step there act
      have recorder := recorder_step s act
      by_cases concerned : act.concerns place = true
      · rw [List.filter_cons_of_pos concerned]
        refine ih next ?_ ?_
        · rw [same]
          exact desk?_step here act
        · rw [recorder, same]
          exact (recorder_step u act).symm
      · rw [List.filter_cons_of_neg concerned]
        refine ih (next.trans ?_) here ?_
        · cases act with
          | on id c => rw [Act.atDesk, if_neg (by simpa [Act.concerns] using concerned)]
          | openRegistry r => rfl
          | install id => exact absurd rfl concerned
          | emit w => exact absurd rfl concerned
        · rw [recorder, ← same]
          cases act with
          | install id => exact absurd rfl concerned
          | on id c | openRegistry r | emit w => rfl

/-- What is told at a registry and which names are registered there follow from the registrations
that were tried there. -/
structure Exact (s : History) (id : RegistryId) : Prop where
  /-- A name is registered exactly if a registration of it has succeeded. -/
  registered : ∀ name, (s.telemetry.registry id).isRegistered name = true ↔
    ∃ trial ∈ s.trials id, trial.family.name = name ∧ trial.outcome = .ok ()
  /-- A registration succeeds exactly if its name is valid and none before it has succeeded with
  that name. -/
  succeeded : ∀ before trial after, s.trials id = before ++ trial :: after →
    (trial.outcome = .ok () ↔ Name.isValid trial.family.name = true ∧
      ∀ earlier ∈ before, earlier.family.name = trial.family.name → earlier.outcome ≠ .ok ())
  /-- A registration that does not succeed is told why. -/
  refused : ∀ trial ∈ s.trials id, trial.outcome ≠ .ok () →
    trial.outcome = .error (if Name.isValid trial.family.name then
      .alreadyRegistered trial.family.name else .invalidMetricName trial.family.name)
  /-- A registration that is refused changes nothing. -/
  unchanged : ∀ family e,
    (s.call id (.claim family)).trials id = s.trials id ++ [⟨family, .error e⟩] →
    (s.call id (.claim family)).telemetry = s.telemetry ∧
      (s.call id (.claim family)).pending = s.pending
  /-- Of the registrations of a valid name exactly one has succeeded, if there were any. -/
  once : ∀ trial ∈ s.trials id, Name.isValid trial.family.name = true →
    (s.trials id).countP
      (fun other => other.family.name = trial.family.name ∧ other.outcome.isOk) = 1

/-- A claim that is told an error has changed nothing. -/
theorem call_refused {s : History} {id : RegistryId} {family : FamilyClaim} {e : MeterError}
    (told : (s.call id (.claim family)).trials id = s.trials id ++ [⟨family, .error e⟩]) :
    (s.call id (.claim family)).telemetry = s.telemetry ∧
      (s.call id (.claim family)).pending = s.pending := by
  rw [call, s.telemetry.claim_eq] at told ⊢
  cases outcome : verdict (s.telemetry.registry id).claimed family.name with
  | error e =>
      refine ⟨rfl, ?_⟩
      exact (congrArg _ (List.append_nil (s.pending id))).trans (Function.update_eq_self ..)
  | ok _ =>
      rw [outcome] at told
      have last := (Function.update_self ..).symm.trans told
      rw [List.append_cancel_left_eq] at last
      cases last

theorem exact_of_sound {s : History} {id : RegistryId} {d : Desk} (there : s.desk? id = some d)
    (h : d.Sound) : s.Exact id := by
  have known := registry_of_desk? there
  obtain ⟨-, trials, -⟩ := desk?_eq_some.mp there
  obtain ⟨claimed, consequent⟩ := h
  rw [← trials] at claimed consequent
  refine ⟨?_, ?_, ?_, fun family e told => call_refused told, ?_⟩
  · intro name
    rw [known, Registry.isRegistered, claimed, List.contains_iff_mem, mem_granted]
  · intro before trial after split
    rw [consequent before trial after split, verdict_eq_ok_iff, mem_granted]
    simp only [not_exists, not_and]
  · intro trial member failed
    obtain ⟨before, after, split⟩ := List.append_of_mem member
    rw [consequent before trial after split] at failed ⊢
    unfold verdict at failed ⊢
    split
    · next valid =>
        rw [if_pos valid] at failed
        split
        · rfl
        · next free => exact absurd (if_neg free) failed
    · rfl
  · intro trial member valid
    exact consequent.once member valid

/-- The updates that are left of a registration follow one another if nothing comes between. -/
theorem run_proceed {s : History} {id : RegistryId} {which : Nat} {left : List Write}
    (found : (s.pending id)[which]? = some left) :
    (s.run (List.replicate left.length (.on id (.proceed which)))).telemetry =
        left.foldl (fun t w => t.write id w) s.telemetry ∧
      (s.run (List.replicate left.length (.on id (.proceed which)))).trials = s.trials := by
  induction left generalizing s with
  | nil => exact ⟨rfl, rfl⟩
  | cons w left ih =>
      have first : s.step (.on id (.proceed which)) =
          { s with
            telemetry := s.telemetry.write id w
            pending := Function.update s.pending id ((s.pending id).set which left) } := by
        rw [step, call, found]
      have inside := (List.getElem?_eq_some_iff.mp found).1
      have rest := @ih (s.step (.on id (.proceed which))) (by
        rw [first]
        simp only [Function.update_self]
        exact List.getElem?_set_self inside)
      rw [first] at rest
      rw [List.length_cons, List.replicate_succ, run, List.foldl_cons, first]
      exact rest

/-- A registration that nothing comes between leaves what a registration in one call does. -/
theorem run_register (s : History) (id : RegistryId) (f : FamilyClaim) :
    ∃ calls : List Call, (s.run (calls.map (.on id))).telemetry = (s.telemetry.register id f).1 ∧
      (s.run (calls.map (.on id))).trials id =
        s.trials id ++ [⟨f, (s.telemetry.register id f).2⟩] := by
  rw [s.telemetry.register_eq]
  have first : (s.step (.on id (.claim f))).trials id =
      s.trials id ++ [⟨f, (s.telemetry.claim id f.name).2⟩] := Function.update_self ..
  rcases told : s.telemetry.claim id f.name with ⟨t, e | _⟩
  · refine ⟨[.claim f], ?_, ?_⟩
    · simp [run, step, call, told]
    · rw [told] at first
      exact first
  · have queued : (s.step (.on id (.claim f))).telemetry = t ∧
        ((s.step (.on id (.claim f))).pending id)[(s.pending id).length]? = some f.writes := by
      simp [step, call, told, Except.isOk, Except.toBool]
    obtain ⟨written, kept⟩ := run_proceed queued.2
    refine ⟨.claim f :: List.replicate f.writes.length (.proceed (s.pending id).length), ?_, ?_⟩
    · rw [List.map_cons, List.map_replicate]
      exact written.trans (by rw [queued.1])
    · rw [List.map_cons, List.map_replicate]
      rw [told] at first
      exact (congrFun kept id).trans first

/-- What a registration in one call is told at a registry of a history, and what it leaves. -/
structure WholeCall (s : History) (id : RegistryId) (f : FamilyClaim) : Prop where
  /-- It succeeds exactly if its name is valid and none before it has succeeded with that name. -/
  succeeded : (s.telemetry.register id f).2 = .ok () ↔ Name.isValid f.name = true ∧
    ∀ earlier ∈ s.trials id, earlier.family.name = f.name → earlier.outcome ≠ .ok ()
  /-- Otherwise it is told why and changes nothing. -/
  refused : (s.telemetry.register id f).2 ≠ .ok () →
    s.telemetry.register id f = (s.telemetry, .error (if Name.isValid f.name then
      .alreadyRegistered f.name else .invalidMetricName f.name))
  /-- It does what a claim and its updates do if nothing comes between them. -/
  asUpdates : ∃ calls : List Call,
    (s.run (calls.map (.on id))).telemetry = (s.telemetry.register id f).1 ∧
      (s.run (calls.map (.on id))).trials id =
        s.trials id ++ [⟨f, (s.telemetry.register id f).2⟩]

theorem register_refused {t : Telemetry} {id : RegistryId} {f : FamilyClaim}
    (refused : (t.register id f).2 ≠ .ok ()) : (t.register id f).1 = t := by
  rw [t.register_eq, t.claim_eq] at refused ⊢
  cases outcome : verdict (t.registry id).claimed f.name with
  | error e => rfl
  | ok _ =>
      rw [outcome] at refused
      exact absurd rfl refused

/-- Where the registrations stay exact, a registration in one call is as exact as the others. -/
theorem wholeCall_of_exact {s : History} {id : RegistryId}
    (exact : ∀ calls : List Call, (s.run (calls.map (.on id))).Exact id) (f : FamilyClaim) :
    s.WholeCall id f := by
  obtain ⟨calls, left, trials⟩ := run_register s id f
  have later := exact calls
  refine ⟨?_, ?_, calls, left, trials⟩
  · exact later.succeeded (s.trials id) ⟨f, (s.telemetry.register id f).2⟩ [] trials
  · intro refused
    have member : ⟨f, (s.telemetry.register id f).2⟩ ∈
        (s.run (calls.map (.on id))).trials id := by
      rw [trials]
      exact List.mem_append_right _ (List.mem_singleton_self _)
    exact Prod.ext (register_refused refused) (later.refused _ member refused)

/-- Over any history of a registry that begins without claims, the registrations at it are exact, a
registration in one call at its end is as exact as they are, and what is done at other registries
makes no difference. -/
theorem run_exact {t : Telemetry} {id : RegistryId} {r : Registry}
    (there : t.registries[id]? = some r) (new : r.claimed = []) (acts : List Act) :
    (run { telemetry := t } acts).Exact id ∧
      (∀ f, (run { telemetry := t } acts).WholeCall id f) ∧
      (run { telemetry := t } acts).desk? id =
        (run { telemetry := t } (acts.filter (Act.concerns id))).desk? id := by
  have start : desk? { telemetry := t } id = some ⟨r, [], []⟩ :=
    desk?_eq_some.mpr ⟨there, rfl, rfl⟩
  have sound : Desk.Sound ⟨r, [], []⟩ := ⟨new, fun before trial after split => by simp at split⟩
  have exact : ∀ acts, (run { telemetry := t } acts).Exact id := by
    intro acts
    obtain ⟨d, found, holds⟩ := run_kept (fun c h => h.call c) start sound acts
    exact exact_of_sound found holds
  refine ⟨exact acts, wholeCall_of_exact ?_, run_concerns start start rfl acts⟩
  intro calls
  have longer := exact (acts ++ calls.map (.on id))
  rwa [run, List.foldl_append] at longer

/-- Two registrations of one name at the same time, with an invalid one and a write in between, and
a registration of that name in one call after them. -/
theorem run_exact_contended :
    let t : Telemetry := { registries := [Registry.empty, Registry.empty] }
    let jobs : FamilyClaim := ⟨.counter, "jobs_total", "Jobs."⟩
    let late : FamilyClaim := ⟨.summary, "jobs_total", "Jobs, too."⟩
    let bad : FamilyClaim := ⟨.counter, "9jobs", ""⟩
    let acts : List Act := [.on 0 (.claim jobs), .on 1 (.claim jobs), .on 0 (.claim bad),
      .on 0 (.write (.add ⟨"jobs_total", []⟩ 1)), .on 0 (.claim late), .on 0 (.proceed 0)]
    (run { telemetry := t } acts).trials 0 = [⟨jobs, .ok ()⟩,
        ⟨bad, .error (.invalidMetricName "9jobs")⟩,
        ⟨late, .error (.alreadyRegistered "jobs_total")⟩] ∧
      ((run { telemetry := t } acts).telemetry.register 0 late).2 =
        .error (.alreadyRegistered "jobs_total") ∧
      (run { telemetry := t } acts).Exact 0 ∧
        (∀ f, (run { telemetry := t } acts).WholeCall 0 f) ∧
        (run { telemetry := t } acts).desk? 0 =
          (run { telemetry := t } (acts.filter (Act.concerns 0))).desk? 0 := by
  intro t jobs late bad acts
  have there : t.registries[0]? = some Registry.empty := rfl
  exact ⟨by decide +kernel, by decide +kernel, run_exact there rfl acts⟩

end History

end TrafficMeter.Traffic
