import TrafficMeter.Proofs.Metric.Cells
import TrafficMeter.Proofs.Traffic.Claims

/-!
# The recorder of a process

One registry can be made the recorder of its process, once and for all. What is written to the
recorder goes to that registry as if it were written there, and as long as there is none it goes
nowhere. Whether a name is claimed is no concern of such a write: what is told about claims is
kept in books that it does not touch.

Main statement: `run_governed`, what a history makes of its installations and of its writes to the
recorder, and that the history without those writes is told the same.
-/

namespace TrafficMeter.Traffic

open TrafficMeter.Metric

/-! ## Writes to the recorder -/

/-- To the registries, writing through the recorder interface is writing. -/
theorem Telemetry.registries_record_eq (t : Telemetry) (id : RegistryId) (w : Write) :
    (t.record id w).registries = (t.write id w).registries := by
  apply List.ext_getElem?
  intro place
  rw [registries_record, write, registries_change t place id (·.apply w)]

/-- A registry after a write to the recorder. -/
theorem Telemetry.registries_emit (t : Telemetry) (w : Write) (place : RegistryId) :
    (t.emit w).registries[place]? =
      (t.registries[place]?).map fun r => if t.recorder = some place then r.apply w else r :=
  t.registries_emitAll place [w]

namespace History

/-- A write to the recorder of the process. -/
def Act.isEmit : Act → Bool
  | .emit _ => true
  | _ => false

/-- The registry that is to be the recorder, in an installation. -/
def Act.installs? : Act → Option RegistryId
  | .install id => some id
  | _ => none

/-- The registry of the first installation. -/
def installed? (acts : List Act) : Option RegistryId := acts.findSome? Act.installs?

theorem Act.recorder_eq (before : Option RegistryId) (act : Act) :
    act.recorder before = before.or act.installs? := by
  cases act <;> simp [recorder, installs?]

/-- The recorder after a history is the one it began with, or that of the first installation. -/
theorem recorder_run (s : History) (acts : List Act) :
    (s.run acts).telemetry.recorder = s.telemetry.recorder.or (installed? acts) := by
  induction acts generalizing s with
  | nil => exact Option.or_none.symm
  | cons act acts ih =>
      rw [run, List.foldl_cons]
      refine (ih (s.step act)).trans ?_
      rw [recorder_step, Act.recorder_eq, Option.or_assoc, installed?, installed?,
        List.findSome?_cons]
      cases act.installs? <;> simp

/-! ## The books -/

/-- What a process has to know to tell what becomes of a registration or of an installation. -/
structure Book where
  recorder : Option RegistryId
  claimed : List (List String)
  trials : RegistryId → List Trial
  pending : RegistryId → List (List Write)

/-- The books of a history. -/
def book (s : History) : Book where
  recorder := s.telemetry.recorder
  claimed := s.telemetry.registries.map (·.claimed)
  trials := s.trials
  pending := s.pending

/-- The books after a step, which writes do not enter. -/
def Book.enter (b : Book) : Act → Book
  | .on id (.claim family) =>
      let names := (b.claimed[id]?).getD []
      let trial := ⟨family, verdict names family.name⟩
      { b with
        claimed :=
          if trial.outcome.isOk then b.claimed.set id (names ++ [family.name]) else b.claimed
        trials := Function.update b.trials id (b.trials id ++ [trial])
        pending := Function.update b.pending id
          (b.pending id ++ if trial.outcome.isOk then [family.writes] else []) }
  | .on id (.proceed which) =>
      match (b.pending id)[which]? with
      | some (_ :: left) =>
          { b with pending := Function.update b.pending id ((b.pending id).set which left) }
      | _ => b
  | .openRegistry r => { b with claimed := b.claimed ++ [r.claimed] }
  | .install id => { b with recorder := b.recorder.or (some id) }
  | .on _ (.write _) | .on _ (.record _) | .on _ .render | .emit _ => b

theorem claimed_registry (t : Telemetry) (id : RegistryId) :
    (t.registry id).claimed = ((t.registries.map (·.claimed))[id]?).getD [] := by
  rw [Telemetry.registry, List.getElem?_map]
  cases t.registries[id]? <;> rfl

/-- Registries that keep their claims one by one keep them all. -/
theorem claimed_kept {t next : Telemetry} {f : RegistryId → Registry → Registry}
    (changed : ∀ place, next.registries[place]? = (t.registries[place]?).map (f place))
    (kept : ∀ place r, (f place r).claimed = r.claimed) :
    next.registries.map (·.claimed) = t.registries.map (·.claimed) := by
  apply List.ext_getElem?
  intro place
  rw [List.getElem?_map, List.getElem?_map, changed, Option.map_map]
  congr 1
  funext r
  exact kept place r

theorem claimed_write (t : Telemetry) (id : RegistryId) (w : Write) :
    (t.write id w).registries.map (·.claimed) = t.registries.map (·.claimed) := by
  refine claimed_kept (t.registries_change · id (·.apply w)) fun place r => ?_
  split
  · exact r.apply_claimed w
  · rfl

theorem claimed_emit (t : Telemetry) (w : Write) :
    (t.emit w).registries.map (·.claimed) = t.registries.map (·.claimed) := by
  refine claimed_kept (t.registries_emit w) fun place r => ?_
  split
  · exact r.apply_claimed w
  · rfl

/-- A registration enters the books and is decided by them. -/
theorem book_claim (s : History) (id : RegistryId) (family : FamilyClaim) :
    (s.call id (.claim family)).book = s.book.enter (.on id (.claim family)) := by
  have names : (s.telemetry.registry id).claimed = (s.book.claimed[id]?).getD [] :=
    claimed_registry s.telemetry id
  rw [call, s.telemetry.claim_eq, Book.enter, ← names]
  cases verdict (s.telemetry.registry id).claimed family.name with
  | error e => rfl
  | ok _ =>
      have claimed : (s.telemetry.registries.set id
            { s.telemetry.registry id with
              claimed := (s.telemetry.registry id).claimed ++ [family.name] }).map (·.claimed) =
          (s.telemetry.registries.map (·.claimed)).set id
            ((s.telemetry.registry id).claimed ++ [family.name]) := List.map_set
      simp only [book]
      rw [← claimed]
      rfl

/-- A step enters the books, and nothing that the books do not hold decides what it enters. -/
theorem book_step (s : History) (act : Act) : (s.step act).book = s.book.enter act := by
  cases act with
  | on id c =>
      cases c with
      | claim family => exact book_claim s id family
      | proceed which =>
          have pending : s.book.pending id = s.pending id := rfl
          rw [step, call, Book.enter, pending]
          rcases (s.pending id)[which]? with _ | _ | ⟨w, left⟩
          · rfl
          · rfl
          · exact congrArg (fun claimed => Book.mk _ claimed _ _) (claimed_write s.telemetry id w)
      | write w =>
          exact congrArg (fun claimed => Book.mk _ claimed _ _) (claimed_write s.telemetry id w)
      | record w =>
          rw [step, book, recorder_call, call, Telemetry.registries_record_eq, claimed_write]
          rfl
      | render =>
          have claimed := claimed_kept (s.telemetry.registries_tally · id)
            (f := fun place r => if id = place then r.tally else r)
            fun place r => by split <;> rfl
          rw [step, call, book, claimed]
          rfl
  | openRegistry r => simp [step, book, Book.enter, Telemetry.addRegistry]
  | install id =>
      rw [step, Telemetry.install]
      cases recorder : s.telemetry.recorder <;>
        simp [book, Book.enter, recorder, Telemetry.note]
  | emit w =>
      rw [step, book, claimed_emit, Telemetry.recorder_emit]
      rfl

theorem book_run (s : History) (acts : List Act) :
    (s.run acts).book = acts.foldl Book.enter s.book := by
  induction acts generalizing s with
  | nil => rfl
  | cons act acts ih =>
      rw [List.foldl_cons, ← book_step]
      exact ih (s.step act)

/-- Writes to the recorder leave the books as they are. -/
theorem book_run_filter (s : History) (acts : List Act) :
    (s.run (acts.filter (!·.isEmit))).book = (s.run acts).book := by
  rw [book_run, book_run, List.foldl_filter]
  congr 1
  funext b act
  cases act <;> rfl

/-! ## Histories -/

/-- What a history makes of its installations and of its writes to the recorder. -/
structure Governed (acts : List Act) (s : History) : Prop where
  /-- The first installation succeeds. Any other is refused and changes nothing. -/
  installs : ∀ id, match installed? acts with
    | none => (s.telemetry.install id).2 = .ok ()
    | some _ => s.telemetry.install id = (s.telemetry, .error .recorderAlreadyInstalled)
  /-- Without a recorder a write to it does nothing. -/
  ignored : installed? acts = none → ∀ w, s.step (.emit w) = s
  /-- With one, the registries become what the same write at that registry makes of them. -/
  forwarded : ∀ id, installed? acts = some id → ∀ w,
    (s.step (.emit w)).telemetry.registries = (s.step (.on id (.write w))).telemetry.registries
  /-- No other registry changes. -/
  elsewhere : ∀ place, installed? acts ≠ some place → ∀ w,
    (s.step (.emit w)).telemetry.registries[place]? = s.telemetry.registries[place]?
  /-- The recorder changes in the series or the help text of the write at most. -/
  within : ∀ (id : RegistryId) (r : Registry), s.telemetry.registries[id]? = some r →
    ∀ w, ∃ next : Registry,
      (s.step (.emit w)).telemetry.registries[id]? = some next ∧ r.ChangedAt w.cell next
  /-- What is told stays, and so does the recorder. -/
  kept : ∀ w, (s.step (.emit w)).book = s.book

/-- Histories after which the same is told about every installation, every registration so far and
every name. -/
structure ToldAlike (s u : History) : Prop where
  installs : ∀ id, (s.telemetry.install id).2 = (u.telemetry.install id).2
  registrations : ∀ id, s.trials id = u.trials id
  names : ∀ id name,
    (s.telemetry.registry id).isRegistered name = (u.telemetry.registry id).isRegistered name

theorem toldAlike_of_book {s u : History} (same : s.book = u.book) : s.ToldAlike u where
  installs := by
    intro id
    have recorder : s.telemetry.recorder = u.telemetry.recorder := congrArg Book.recorder same
    rw [Telemetry.install, Telemetry.install, ← recorder]
    cases s.telemetry.recorder <;> rfl
  registrations := congrFun (congrArg Book.trials same)
  names := by
    intro id name
    have claimed :
        s.telemetry.registries.map (·.claimed) = u.telemetry.registries.map (·.claimed) :=
      congrArg Book.claimed same
    rw [Registry.isRegistered, Registry.isRegistered, claimed_registry, claimed_registry, claimed]

theorem governed_of_recorder {acts : List Act} {s : History}
    (recorder : s.telemetry.recorder = installed? acts) : s.Governed acts where
  installs := by
    intro id
    rw [Telemetry.install, recorder]
    cases installed? acts <;> rfl
  ignored := by
    intro idle w
    have same : s.telemetry.emit w = s.telemetry := by
      unfold Telemetry.emit
      rw [recorder, idle]
    exact congrArg (fun t => { s with telemetry := t }) same
  forwarded := by
    intro id first w
    have same : s.telemetry.emit w = s.telemetry.record id w := by
      unfold Telemetry.emit
      rw [recorder, first]
    exact (congrArg _ same).trans (s.telemetry.registries_record_eq id w)
  elsewhere := by
    intro place other w
    refine (s.telemetry.registries_emit w place).trans ?_
    simp only [recorder, if_neg other]
    exact Option.map_id_apply'
  within := by
    intro id r there w
    refine ⟨_, (s.telemetry.registries_emit w id).trans (congrArg _ there), ?_⟩
    simp only
    split
    · exact r.changedAt_apply w
    · exact ⟨rfl, rfl, fun other _ => .refl r other⟩
  kept := fun w => book_step s (.emit w)

/-- Over any history of a process that begins without a recorder, the first installation succeeds
and no other does, and a write to the recorder is the same write at the registry of the first
installation, or nothing if there was none. Without all writes to the recorder the same is told. -/
theorem run_governed (registries : List Registry) (acts : List Act) :
    let s := run { telemetry := { registries } } acts
    s.Governed acts ∧
      s.ToldAlike (run { telemetry := { registries } } (acts.filter (!·.isEmit))) := by
  intro s
  refine ⟨governed_of_recorder ?_, toldAlike_of_book (book_run_filter _ acts).symm⟩
  exact (recorder_run _ acts).trans Option.none_or

/-- What is added before there is a recorder is lost, and what is added after it shows there and at
no other registry, though the name is claimed at the other one only. -/
example :
    let jobs : Key := ⟨"jobs_total", []⟩
    let t := (run { telemetry := { registries := [Registry.empty, Registry.empty] } }
      [.on 0 (.claim ⟨.counter, "jobs_total", ""⟩), .emit (.add jobs 4), .install 1, .install 0,
        .emit (.add jobs 2), .emit (.add jobs 3)]).telemetry
    Table.find? (t.registry 1).counters jobs = some 5 ∧
      Table.find? (t.registry 0).counters jobs = none := by
  decide

end History

end TrafficMeter.Traffic
