import TrafficMeter.Proofs.Metric.Collisions
import TrafficMeter.Proofs.Traffic.Registration

/-!
# What the families of a page are headed by

A name can be claimed once, so only one registration of a name gives it a kind and a help text, and
an attempt that is refused leaves no trace on the page. A registered summary is shown from then on,
a registered counter once one of its series was got.

Main statement: `headings_exact`, which families there are on the page after calls that get series
of registered counters only, with their kinds and help texts.
-/

namespace TrafficMeter.Metric

/-- What a family is headed by: its kind, its name and its help text. -/
def Family.head (f : Family) : Kind × String × Option String := (f.kind, f.name, f.help)

end TrafficMeter.Metric

namespace TrafficMeter.Traffic

open TrafficMeter.Metric

/-! ## Registrations among the calls of a registry -/

/-- The family that a call claims, if it claims one. -/
def claim? : Metric.Call → Option FamilyClaim
  | .registerCounter name help => some ⟨.counter, name, help⟩
  | .registerSummary name help => some ⟨.summary, name, help⟩
  | .count _ _ _ | .record _ _ | .render => none

/-- Whether a call gets a series of a name. -/
def gets (name : String) : Metric.Call → Bool
  | .count counter _ _ => counter = name
  | _ => false

/-- A registry with the families whose registration there has succeeded. -/
structure Ledger where
  registry : Registry
  families : List FamilyClaim := []

namespace Ledger

/-- The family that a call registers with success, if there is one. -/
def granted (l : Ledger) (c : Metric.Call) : List FamilyClaim :=
  match claim? c with
  | some f => if (f.register l.registry).isOk then [f] else []
  | none => []

/-- Carries out a call. -/
def call (l : Ledger) (c : Metric.Call) : Ledger :=
  { registry := l.registry.call c, families := l.families ++ l.granted c }

/-- Carries out calls one after the other. -/
def callAll (l : Ledger) (calls : List Metric.Call) : Ledger := calls.foldl call l

/-- Series are got of registered counters only. -/
def Permits (l : Ledger) : Metric.Call → Prop
  | .count name _ _ => ∃ f ∈ l.families, f.kind = .counter ∧ f.name = name
  | _ => True

instance (l : Ledger) (c : Metric.Call) : Decidable (l.Permits c) :=
  match c with
  | .count name _ _ =>
      inferInstanceAs (Decidable (∃ f ∈ l.families, f.kind = .counter ∧ f.name = name))
  | .registerCounter _ _ | .registerSummary _ _ | .record _ _ | .render => .isTrue trivial

/-- Each call is permitted when it comes. -/
def Disciplined (l : Ledger) : List Metric.Call → Prop
  | [] => True
  | c :: calls => l.Permits c ∧ (l.call c).Disciplined calls

instance decidableDisciplined (l : Ledger) :
    (calls : List Metric.Call) → Decidable (l.Disciplined calls)
  | [] => .isTrue trivial
  | c :: calls =>
      have := decidableDisciplined (l.call c) calls
      inferInstanceAs (Decidable (l.Permits c ∧ (l.call c).Disciplined calls))

theorem registry_callAll (l : Ledger) (calls : List Metric.Call) :
    (l.callAll calls).registry = l.registry.callAll calls := by
  induction calls generalizing l with
  | nil => rfl
  | cons c calls ih => exact ih (l.call c)

/-- A registration that has succeeded stays. -/
theorem families_callAll (l : Ledger) (calls : List Metric.Call) {f : FamilyClaim}
    (member : f ∈ l.families) : f ∈ (l.callAll calls).families := by
  induction calls generalizing l with
  | nil => exact member
  | cons c calls ih => exact ih (l.call c) (List.mem_append_left _ member)

/-- Under discipline, a counter that a series was got of is registered in the end. -/
theorem Disciplined.registered {l : Ledger} {calls : List Metric.Call} (h : l.Disciplined calls)
    {name : String} {labels : List Label.Pair} {amounts : List UInt64}
    (member : .count name labels amounts ∈ calls) :
    ∃ f ∈ (l.callAll calls).families, f.kind = .counter ∧ f.name = name := by
  induction calls generalizing l with
  | nil => cases member
  | cons c calls ih =>
      obtain ⟨permitted, rest⟩ := h
      rcases List.mem_cons.mp member with rfl | later
      · obtain ⟨f, registered, own⟩ := permitted
        exact ⟨f, families_callAll _ calls (List.mem_append_left _ registered), own⟩
      · exact ih rest later

/-! ## What a registry keeps of registrations -/

/-- A call that claims nothing leaves claims, help texts and the choice of summaries. -/
theorem call_of_claim?_none (r : Registry) {c : Metric.Call} (none : claim? c = none) :
    (r.call c).claimed = r.claimed ∧ (r.call c).helps = r.helps ∧
      ∀ k, (Table.find? (r.call c).summaries k).isSome = (Table.find? r.summaries k).isSome := by
  cases c with
  | registerCounter name help | registerSummary name help => cases none
  | count name labels amounts =>
      have after := Registry.applyAll_adds r ⟨name, labels⟩ (0 :: amounts)
      rw [List.map_cons] at after
      rw [Registry.call, after]
      exact ⟨rfl, rfl, fun k => rfl⟩
  | record name values =>
      rw [Registry.call]
      split
      · next known =>
          refine ⟨rfl, rfl, fun k => ?_⟩
          rw [Registry.apply, Table.find?_alter]
          split
          · next same => rw [same, known, Option.isSome_some]
          · rfl
      · exact ⟨rfl, rfl, fun k => rfl⟩
  | render =>
      refine ⟨rfl, rfl, fun k => ?_⟩
      rw [Registry.call, Registry.tally, Table.find?_map, Option.isSome_map]

/-- A call that claims a family enrols it or changes nothing. -/
theorem call_of_claim? (l : Ledger) {c : Metric.Call} {f : FamilyClaim}
    (claims : claim? c = some f) :
    l.call c = match l.registry.refusal? f.name with
      | none => ⟨f.enrol l.registry, l.families ++ [f]⟩
      | some _ => l := by
  have registry : l.registry.call c = (f.register l.registry).toOption.getD l.registry := by
    cases c <;> cases claims <;> rfl
  have families : l.granted c = if (f.register l.registry).isOk then [f] else [] := by
    rw [granted, claims]
  rw [call, registry, families, f.register_eq]
  cases l.registry.refusal? f.name with
  | none => rfl
  | some e => exact congrArg (Ledger.mk l.registry) (List.append_nil _)

theorem refusal?_eq_none {r : Registry} {name : String} (free : r.refusal? name = none) :
    Name.isValid name = true ∧ name ∉ r.claimed := by
  unfold Registry.refusal? at free
  split at free
  · next valid =>
      split at free
      · cases free
      · next new => exact ⟨valid, fun member => new (List.contains_iff_mem.mpr member)⟩
  · cases free

/-- What a registry holds of the families that were registered. -/
structure Sound (l : Ledger) : Prop where
  claimed : l.registry.claimed = l.families.map (·.name)
  helps : ∀ shown, l.registry.helps.lookup shown =
    (l.families.map fun f => (Name.sanitize f.name, f.help)).lookup shown
  summaries : ∀ k, (Table.find? l.registry.summaries k).isSome = true ↔ Summarised l.families k
  valid : ∀ f ∈ l.families, Name.isValid f.name = true ∧ f.kind ≠ .gauge
  distinct : (l.families.map (·.name)).Nodup

theorem Sound.new (quantiles : List Float) : Sound { registry := { quantiles } } where
  claimed := rfl
  helps := fun shown => rfl
  summaries := by simp [Table.find?, Summarised]
  valid := by simp
  distinct := List.nodup_nil

/-- A registration with a free name is kept. -/
theorem Sound.enrol {l : Ledger} (h : l.Sound) {f : FamilyClaim} (counts : f.kind ≠ .gauge)
    (free : l.registry.refusal? f.name = none) :
    Sound ⟨f.enrol l.registry, l.families ++ [f]⟩ := by
  have added := f.enrol_extends l.registry
  obtain ⟨valid, new⟩ := refusal?_eq_none free
  refine ⟨?_, ?_, ?_, ?_, ?_⟩
  · rw [added.claimed, h.claimed, List.map_append]
  · intro shown
    rw [added.helps, h.helps, List.map_append, List.lookup_append]
  · intro k
    rw [added.summaries, summarised_append, ← h.summaries]
    split
    · next own => simp [own]
    · next other => simp [other]
  · intro g member
    rcases List.mem_append.mp member with old | last
    · exact h.valid g old
    · exact List.mem_singleton.mp last ▸ ⟨valid, counts⟩
  · rw [h.claimed] at new
    rw [List.map_append]
    exact List.perm_append_comm.nodup (List.nodup_cons.mpr ⟨new, h.distinct⟩)

theorem Sound.call {l : Ledger} (h : l.Sound) (c : Metric.Call) : (l.call c).Sound := by
  cases claims : claim? c with
  | none =>
      obtain ⟨names, helps, summaries⟩ := call_of_claim?_none l.registry claims
      have families : (l.call c).families = l.families := by
        rw [Ledger.call, granted, claims, List.append_nil]
      refine ⟨?_, ?_, ?_, families ▸ h.valid, families ▸ h.distinct⟩
      · rw [families, ← h.claimed]
        exact names
      · intro shown
        rw [families, ← h.helps]
        exact congrArg (·.lookup shown) helps
      · intro k
        rw [families, ← h.summaries, ← summaries]
        rfl
  | some f =>
      have counts : f.kind ≠ .gauge := by
        cases c <;> cases claims <;> simp
      rw [call_of_claim? l claims]
      cases free : l.registry.refusal? f.name with
      | some e => exact h
      | none => exact h.enrol counts free

theorem Sound.callAll {l : Ledger} (h : l.Sound) (calls : List Metric.Call) :
    (l.callAll calls).Sound := by
  induction calls generalizing l with
  | nil => exact h
  | cons c calls ih => exact ih (h.call c)

/-! ## The page -/

theorem Sound.sanitize {l : Ledger} (h : l.Sound) {f : FamilyClaim} (member : f ∈ l.families) :
    Name.sanitize f.name = f.name :=
  (Name.sanitize_eq_self_iff f.name).mpr (.inr (h.valid f member).1)

/-- What is listed under different keys is found under each. -/
theorem lookup_map_of_nodup {ι α : Type} (key : ι → String) (value : ι → α) {items : List ι}
    (distinct : (items.map key).Nodup) {i : ι} (member : i ∈ items) :
    (items.map fun i => (key i, value i)).lookup (key i) = some (value i) := by
  induction items with
  | nil => cases member
  | cons j rest ih =>
      obtain ⟨new, distinct⟩ := List.nodup_cons.mp distinct
      rw [List.map_cons, Assoc.lookup_cons_ite]
      rcases List.mem_cons.mp member with rfl | later
      · rw [if_pos rfl]
      · have other : key i ≠ key j := by
          intro same
          exact new (List.mem_map.mpr ⟨i, later, same⟩)
        rw [if_neg other]
        exact ih distinct later

/-- A family is shown with its help text. -/
theorem Sound.lookup {l : Ledger} (h : l.Sound) {f : FamilyClaim} (member : f ∈ l.families) :
    l.registry.helps.lookup f.name = some f.help := by
  have shown : l.families.map (fun f => Name.sanitize f.name) = l.families.map (·.name) :=
    List.map_congr_left fun f member => h.sanitize member
  have found := lookup_map_of_nodup (fun f : FamilyClaim => Name.sanitize f.name) (·.help)
    (shown ▸ h.distinct) member
  rwa [← h.helps, h.sanitize member] at found

end Ledger

/-- What a registered family should be headed by. -/
def FamilyClaim.head (f : FamilyClaim) : Kind × String × Option String :=
  (f.kind, f.name, some f.help)

/-- The comments that a registered family should have. -/
def FamilyClaim.heading (f : FamilyClaim) : List String :=
  ["# HELP " ++ f.name ++ " " ++ Label.escape .help f.help,
    "# TYPE " ++ f.name ++ " " ++ f.kind.word]

namespace Ledger

variable {l : Ledger} {quantiles : List Float} {calls : List Metric.Call}

/-- A table whose series have the names of registered families is shown under their heads. -/
theorem Sound.heads_families (h : l.Sound) {shown : List FamilyClaim} (kind : Kind) {α : Type}
    (both : α → α → α) (lines : String → List String → α → List Sample) {t : Table α}
    (some : shown.Sublist l.families) (kinds : ∀ f ∈ shown, f.kind = kind)
    (names : ∀ name, (∃ e ∈ t, Name.sanitize e.1.name = name) ↔ ∃ f ∈ shown, f.name = name) :
    ((Page.families l.registry kind both lines t).map Family.head).Perm
      (shown.map FamilyClaim.head) := by
  let headed (name : String) : Kind × String × Option String :=
    (kind, name, l.registry.helps.lookup name)
  have page : (Page.families l.registry kind both lines t).map Family.head =
      ((Page.families l.registry kind both lines t).map (·.name)).map headed := by
    rw [Page.families_eq, List.map_map, List.map_map, List.map_map]
    rfl
  have due : shown.map FamilyClaim.head = (shown.map (·.name)).map headed := by
    rw [List.map_map]
    refine List.map_congr_left fun f member => ?_
    simp [headed, FamilyClaim.head, kinds f member, h.lookup (some.subset member)]
  obtain ⟨distinct, members⟩ := Page.names_families both l.registry kind lines t
  rw [page, due]
  refine ((List.perm_ext_iff_of_nodup distinct ((some.map _).nodup h.distinct)).mpr ?_).map headed
  intro name
  rw [members, names, List.mem_map]

/-- The families that should be on the page: the registered summaries, and the registered counters
of which a series was got. -/
def due (l : Ledger) (calls : List Metric.Call) : List FamilyClaim :=
  l.families.filter fun f => f.kind = .summary ∨ calls.any (gets f.name)

theorem any_gets {name : String} :
    calls.any (gets name) = true ↔ ∃ labels amounts, .count name labels amounts ∈ calls := by
  rw [List.any_eq_true]
  constructor
  · rintro ⟨c, member, got⟩
    cases c with
    | count counter labels amounts =>
        exact ⟨labels, amounts, of_decide_eq_true got ▸ member⟩
    | _ => cases got
  · rintro ⟨labels, amounts, member⟩
    exact ⟨_, member, decide_eq_true rfl⟩

/-- What should be on the page and is not a counter is a registered summary. -/
theorem Sound.mem_due (h : l.Sound) {f : FamilyClaim} :
    f ∈ (l.due calls).filter (fun f => !decide (f.kind = .counter)) ↔
      f ∈ l.families ∧ f.kind = .summary := by
  rw [List.mem_filter, due, List.mem_filter, and_assoc]
  refine and_congr_right fun own => ?_
  have counts := (h.valid f own).2
  cases kind : f.kind with
  | gauge => exact absurd kind counts
  | counter | summary => simp

/-- The counters that there are series of are those that should be on the page. -/
theorem Sound.names_counters (h : l.Sound) (kept : l.registry.Kept quantiles calls)
    (registered : ∀ name labels amounts, .count name labels amounts ∈ calls →
      ∃ f ∈ l.families, f.kind = .counter ∧ f.name = name) (name : String) :
    (∃ e ∈ l.registry.counters, Name.sanitize e.1.name = name) ↔
      ∃ f ∈ (l.due calls).filter (fun f => f.kind = .counter), f.name = name := by
  constructor
  · rintro ⟨e, member, rfl⟩
    obtain ⟨amounts, got⟩ := (kept.counters e.1).mp (List.mem_map_of_mem member)
    obtain ⟨f, own, kind, same⟩ := registered _ _ _ got
    have counted : calls.any (gets f.name) = true := any_gets.mpr ⟨_, _, same ▸ got⟩
    refine ⟨f, List.mem_filter.mpr ⟨List.mem_filter.mpr ⟨own, ?_⟩, decide_eq_true kind⟩, ?_⟩
    · exact decide_eq_true (.inr counted)
    · rw [← same, h.sanitize own]
  · rintro ⟨f, member, rfl⟩
    obtain ⟨shown, kind⟩ := List.mem_filter.mp member
    obtain ⟨own, reason⟩ := List.mem_filter.mp shown
    rcases of_decide_eq_true reason with summary | counted
    · cases summary.symm.trans (of_decide_eq_true kind)
    · obtain ⟨labels, amounts, got⟩ := any_gets.mp counted
      obtain ⟨e, member, key⟩ := List.mem_map.mp ((kept.counters ⟨f.name, labels⟩).mpr ⟨_, got⟩)
      exact ⟨e, member, by rw [key, h.sanitize own]⟩

/-- The summaries that there are series of are those that were registered. -/
theorem Sound.names_summaries (h : l.Sound) (kept : l.registry.Kept quantiles calls)
    (name : String) :
    (∃ e ∈ l.registry.summaries.map fun e => (e.1, e.2.toList), Name.sanitize e.1.name = name) ↔
      ∃ f ∈ (l.due calls).filter (fun f => !decide (f.kind = .counter)), f.name = name := by
  have series : ∀ k, k ∈ l.registry.summaries.map Prod.fst ↔ Summarised l.families k := by
    intro k
    rw [← h.summaries, Option.isSome_iff_exists]
    constructor
    · intro member
      obtain ⟨e, inside, rfl⟩ := List.mem_map.mp member
      exact ⟨e.2, (Table.mem_iff_find? kept.distinct).mp inside⟩
    · rintro ⟨v, found⟩
      exact List.mem_map_of_mem (f := Prod.fst) ((Table.mem_iff_find? kept.distinct).mpr found)
  constructor
  · rintro ⟨_, member, rfl⟩
    obtain ⟨e, inside, rfl⟩ := List.mem_map.mp member
    obtain ⟨f, own, kind, key⟩ := (series e.1).mp (List.mem_map_of_mem inside)
    refine ⟨f, h.mem_due.mpr ⟨own, kind⟩, ?_⟩
    simp only [key]
    exact (h.sanitize own).symm
  · rintro ⟨f, member, rfl⟩
    obtain ⟨own, summary⟩ := h.mem_due.mp member
    obtain ⟨e, inside, key⟩ := List.mem_map.mp ((series ⟨f.name, []⟩).mpr ⟨f, own, summary, rfl⟩)
    refine ⟨_, List.mem_map_of_mem inside, ?_⟩
    simp only [key]
    exact h.sanitize own

/-- The page shows what it should. -/
theorem Sound.heads_page (h : l.Sound) (kept : l.registry.Kept quantiles calls)
    (registered : ∀ name labels amounts, .count name labels amounts ∈ calls →
      ∃ f ∈ l.families, f.kind = .counter ∧ f.name = name) :
    ((Page.ofRegistry l.registry).map Family.head).Perm ((l.due calls).map FamilyClaim.head) := by
  have some : ∀ p, ((l.due calls).filter p).Sublist l.families :=
    fun p => List.filter_sublist.trans List.filter_sublist
  have counters := h.heads_families .counter (fun _ v => v)
    (fun name labels v => Page.valueLine (Decimal.natural v.toNat) name labels)
    (some _) (by simp) (h.names_counters kept registered)
  have summaries := h.heads_families .summary (· ++ ·) (Page.summaryLines quantiles)
    (some _) (fun f member => (h.mem_due.mp member).2) (h.names_summaries kept)
  rw [Page.ofRegistry_of_kept kept, List.map_append]
  refine (counters.append summaries).trans ?_
  rw [← List.map_append]
  exact (List.filter_append_perm _ _).map _

/-- A page that has the families that it should. -/
structure Headed (due : List FamilyClaim) (page : Page) : Prop where
  families : (page.map Family.head).Perm (due.map FamilyClaim.head)
  /-- No name has two families. -/
  once : (page.map (·.name)).Nodup
  /-- The comments of its text are those of the families, in each the help text before the kind. -/
  comments : ∃ headings : List (List String), headings.Perm (due.map FamilyClaim.heading) ∧
    (Page.linesIn page.text).filter Line.isComment = headings.flatten

/-- After calls that get series of registered counters only, the page has one family for each
registered summary and for each registered counter of which a series was got, and no other. Each is
headed by the kind and the help text of the registration of its name that has succeeded. -/
theorem headings_exact (disciplined : Disciplined { registry := { quantiles } } calls) :
    let l := callAll { registry := { quantiles } } calls
    Headed (l.due calls) (Page.ofRegistry l.registry) := by
  intro l
  have sound : l.Sound := (Sound.new quantiles).callAll calls
  have kept : l.registry.Kept quantiles calls := by
    rw [registry_callAll]
    exact Registry.callAll_kept quantiles calls
  have heads := sound.heads_page kept fun _ _ _ => disciplined.registered
  refine ⟨heads, ?_, (Page.ofRegistry l.registry).map Family.heading, ?_, ?_⟩
  · have names := heads.map (·.2.1)
    rw [List.map_map, List.map_map] at names
    exact names.nodup_iff.mpr ((List.filter_sublist.map _).nodup sound.distinct)
  · let written (head : Kind × String × Option String) : List String :=
      Family.heading { kind := head.1, name := head.2.1, help := head.2.2, series := [] }
    have lines := heads.map written
    rwa [List.map_map, List.map_map] at lines
  · rw [Page.comments_text (Page.clean_page _), List.flatMap_def]

/-- A name that is claimed twice, with another kind the second time, and a counter of which no
series is got. -/
theorem headings_exact_reclaimed :
    let calls : List Metric.Call :=
      [.registerCounter "jobs_total" "Jobs.", .registerSummary "wait" "Waits.",
        .registerSummary "jobs_total" "Other jobs.", .count "jobs_total" [("kind", "mail")] [1],
        .registerCounter "idle_total" "Idle.", .record "wait" [2], .render]
    let l := callAll { registry := { quantiles := [] } } calls
    l.due calls = [⟨.counter, "jobs_total", "Jobs."⟩, ⟨.summary, "wait", "Waits."⟩] ∧
      Headed (l.due calls) (Page.ofRegistry l.registry) := by
  intro calls l
  exact ⟨by decide +kernel, headings_exact (by decide +kernel)⟩

end Ledger

end TrafficMeter.Traffic
