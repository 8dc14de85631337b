import TrafficMeter.Proofs.Traffic.Readings

/-!
# What becomes of each registry

Every step of a process acts on each registry by itself: it makes pages of it and writes to it, and
what it writes does not depend on what any registry holds.

Main statements: `registries_emitAll` and `registries_settle`, which writes each registry gets.
-/

namespace TrafficMeter.Traffic

open TrafficMeter.Metric (Registry Write)

/-- The writes that requests that are done make to the registry at a place. -/
def writesTo (place : RegistryId) (done : List Pending) : List Write :=
  (done.filter (·.collectors.registry = place)).flatMap fun q => q.collectors.writes q.observation

theorem writesTo_cons (place : RegistryId) (q : Pending) (done : List Pending) :
    writesTo place (q :: done) =
      (if q.collectors.registry = place then q.collectors.writes q.observation else []) ++
        writesTo place done := by
  by_cases own : q.collectors.registry = place <;> simp [writesTo, own]

/-- If no others write to a registry, it gets the writes that are due to its collectors. -/
theorem writesTo_own {c : Collectors} {done : List Pending}
    (others : ∀ q ∈ done, q.collectors = c ∨ q.collectors.registry ≠ c.registry) :
    writesTo c.registry done = (c.due done).flatMap c.writes := by
  induction done with
  | nil => rfl
  | cons q done ih =>
      have rest := ih fun p hp => others p (List.mem_cons_of_mem q hp)
      rw [writesTo_cons, rest]
      rcases others q List.mem_cons_self with own | other
      · simp [Collectors.due, own]
      · have foreign : q.collectors ≠ c := fun own => other (congrArg _ own)
        simp [Collectors.due, other, foreign]

/-- Requests of other collectors write to none of the families. -/
theorem sparedBy_writesTo {c : Collectors} {done : List Pending}
    (foreign : ∀ q ∈ done, q.collectors.Apart c) :
    ∀ w ∈ writesTo c.registry done, c.SparedBy w := by
  intro w member
  obtain ⟨q, inside, written⟩ := List.mem_flatMap.mp member
  obtain ⟨inside, here⟩ := List.mem_filter.mp inside
  exact Collectors.sparedBy_writes (foreign q inside) (by simpa using here) q.observation w written

namespace Telemetry

variable (t : Telemetry) (place : RegistryId)

theorem registries_change (id : RegistryId) (f : Registry → Registry) :
    (t.setRegistry id (f (t.registry id))).registries[place]? =
      (t.registries[place]?).map fun r => if id = place then f r else r := by
  rw [registries_set]
  by_cases own : place = id
  · simp [own]
  · simp [own, Ne.symm own]

theorem registries_tally (id : RegistryId) :
    (t.tally id).registries[place]? =
      (t.registries[place]?).map fun r => if id = place then r.tally else r :=
  registries_change t place id Registry.tally

/-- Besides a note, recording is writing. -/
theorem registries_record (id : RegistryId) (w : Write) :
    (t.record id w).registries[place]? =
      (t.registries[place]?).map fun r => if id = place then r.apply w else r := by
  have noted : ∃ u : Telemetry, u.registries = t.registries ∧ t.record id w = u.write id w := by
    unfold record
    split
    · split
      · exact ⟨t.note (.claimedNameReused _), rfl, rfl⟩
      · exact ⟨t, rfl, rfl⟩
    · exact ⟨t, rfl, rfl⟩
  obtain ⟨u, same, written⟩ := noted
  rw [written, ← same]
  exact registries_change u place id (·.apply w)

theorem recorder_emitAll (ws : List Write) : (t.emitAll ws).recorder = t.recorder := by
  induction ws generalizing t with
  | nil => rfl
  | cons w ws ih => exact (ih (t.emit w)).trans (recorder_emit t w)

theorem registries_emitAll (ws : List Write) :
    (t.emitAll ws).registries[place]? =
      (t.registries[place]?).map fun r =>
        if t.recorder = some place then r.applyAll ws else r := by
  induction ws generalizing t with
  | nil => simp [emitAll, Registry.applyAll]
  | cons w ws ih =>
      have rest := ih (t.emit w)
      rw [recorder_emit] at rest
      refine rest.trans ?_
      cases recorder : t.recorder with
      | none => simp [emit, recorder]
      | some id =>
          simp only [emit, recorder, registries_record, Option.map_map]
          congr 1
          funext r
          by_cases own : id = place <;> simp [own, Registry.applyAll]

theorem recorder_observe (c : Collectors) (o : Observation) :
    (Collectors.observe t c o).recorder = t.recorder := by
  have all : ∀ (ws : List Write) (t : Telemetry),
      (ws.foldl (fun t w => t.write c.registry w) t).recorder = t.recorder := by
    intro ws
    induction ws with
    | nil => exact fun _ => rfl
    | cons w ws ih => exact fun t => ih (t.write c.registry w)
  exact all (c.writes o) t

theorem recorder_settle (done : List Pending) : (t.settle done).recorder = t.recorder := by
  induction done generalizing t with
  | nil => rfl
  | cons q done ih => exact (ih _).trans (recorder_observe _ q.collectors q.observation)

theorem registries_settle (done : List Pending) :
    (t.settle done).registries[place]? =
      (t.registries[place]?).map (·.applyAll (writesTo place done)) := by
  induction done generalizing t with
  | nil => simp [settle, writesTo, Registry.applyAll]
  | cons q done ih =>
      let noted := t.note (.requestRecorded q.observation.status q.observation.method
        q.observation.path q.observation.responseSize)
      have first := registries_writes (q.collectors.writes q.observation) noted
        q.collectors.registry place
      refine (ih _).trans ((congrArg (Option.map _) first).trans ?_)
      rw [writesTo_cons]
      by_cases own : place = q.collectors.registry
      · rw [if_pos own, if_pos own.symm, Option.map_map]
        simp only [Function.comp_def, Registry.applyAll, List.foldl_append]
        rfl
      · rw [if_neg own, if_neg (Ne.symm own)]
        rfl

end Telemetry

end TrafficMeter.Traffic
