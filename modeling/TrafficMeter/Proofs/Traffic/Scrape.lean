import Mathlib.Data.List.Dedup
import Mathlib.Data.List.MinMax
import TrafficMeter.Proofs.Decimal.Spelling
import TrafficMeter.Proofs.Metric.Pages
import TrafficMeter.Proofs.Traffic.Counts
import TrafficMeter.Proofs.Traffic.Registration
import TrafficMeter.Text.Token

/-!
# What a page tells of requests

A reader of the page should get back, for each status code, method and path that occurred, how many
requests had them. A path is written so that some of its backslashes are lost, and what is read then
is another path, or the same for two.

Main statement: `readsBack_iff`, for which observations the page can be read back.
-/

namespace TrafficMeter

/-- What would fail only if it failed for something greater, never fails in a list. -/
theorem forall_of_greater {α : Type} {l : List α} {p : α → Prop} {size : α → Nat}
    (greater : ∀ a ∈ l, ¬ p a → ∃ b ∈ l, ¬ p b ∧ size a < size b) : ∀ a ∈ l, p a := by
  classical
  intro a member
  refine Decidable.byContradiction fun fails => ?_
  have some : a ∈ l.filter fun a => ¬ p a := List.mem_filter.mpr ⟨member, by simpa using fails⟩
  obtain ⟨m, greatest⟩ := Option.ne_none_iff_exists'.mp
    (mt (List.argmax_eq_none (f := size)).mp (List.ne_nil_of_mem some))
  obtain ⟨inside, lost⟩ := List.mem_filter.mp (List.argmax_mem greatest)
  obtain ⟨b, found, lost', less⟩ := greater m inside (by simpa using lost)
  have other : b ∈ l.filter fun a => ¬ p a := List.mem_filter.mpr ⟨found, by simpa using lost'⟩
  exact List.not_lt_of_mem_argmax other greatest less

theorem Metric.Name.isRest_of_isValid {name : String} (valid : isValid name = true) :
    ∀ c ∈ name.toList, isRest c = true := by
  rw [isValid] at valid
  cases chars : name.toList with
  | nil => simp
  | cons first rest =>
      rw [chars, validChars, Bool.and_eq_true, List.all_eq_true] at valid
      intro c member
      rcases List.mem_cons.mp member with rfl | member
      · exact isRest_of_isStart valid.1
      · exact valid.2 c member

namespace Traffic

open TrafficMeter.Metric

/-- A status code, a method and a path. -/
abbrev Triple := Nat × String × String

/-- What tells the series of an observation apart. -/
def Observation.triple (o : Observation) : Triple := (o.status, o.method, o.path)

/-- What a request that was admitted gives an observation: the method is a token, and the path has
no line feed. -/
structure Observation.Legal (o : Observation) : Prop where
  method : Text.isToken o.method = true
  path : '\n' ∉ o.path.toList

/-- What can be read back of an observation: nothing is lost of its path, and 64 bits are enough to
count the requests like it. -/
structure Observation.Faithful (os : List Observation) (o : Observation) : Prop where
  path : Label.Unpaired o.path.toList
  count : os.countP (·.triple = o.triple) < 2 ^ 64

instance (os : List Observation) (o : Observation) : Decidable (o.Faithful os) :=
  decidable_of_iff (Label.Unpaired o.path.toList ∧ os.countP (·.triple = o.triple) < 2 ^ 64)
    ⟨fun h => ⟨h.1, h.2⟩, fun h => ⟨h.path, h.count⟩⟩

namespace Collectors

/-- The labels of a series of the counter. -/
def labelsOf (k : Triple) : List Label.Pair :=
  [("code", Decimal.natural k.1), ("method", k.2.1), ("path", k.2.2)]

/-- The lines that a reader should get: one for each triple that occurred, with the number of its
requests. -/
def expected (c : Collectors) (os : List Observation) : List Line :=
  (os.map (·.triple)).dedup.map fun k =>
    { name := c.requests
      labels := labelsOf k
      value := Decimal.natural (os.countP (·.triple = k)) }

/-- The lines of the counter on a page read back to the requests that were observed, and differ in
what they say before their values. -/
structure ReadsBack (c : Collectors) (page : String) (os : List Observation) : Prop where
  lines : ((Page.linesOf c.requests page).map Line.read?).Perm ((c.expected os).map some)
  apart : ((Page.linesOf c.requests page).map Line.series).Nodup

/-- Nothing but the families themselves is shown under the name of the counter. -/
structure AloneIn (c : Collectors) (r : Registry) : Prop where
  counters : ∀ e ∈ r.counters, Name.sanitize e.1.name = c.requests → e.1.name = c.requests
  gauges : ∀ e ∈ r.gauges, Name.sanitize e.1.name ≠ c.requests
  summaries : ∀ e ∈ r.summaries, e.1.name ∉ [c.duration, c.requestSize, c.responseSize] →
    ∀ suffix ∈ ["", "_sum", "_count"], Name.sanitize e.1.name ++ suffix ≠ c.requests

instance (c : Collectors) (r : Registry) : Decidable (c.AloneIn r) :=
  decidable_of_iff
    ((∀ e ∈ r.counters, Name.sanitize e.1.name = c.requests → e.1.name = c.requests) ∧
      (∀ e ∈ r.gauges, Name.sanitize e.1.name ≠ c.requests) ∧
      ∀ e ∈ r.summaries, e.1.name ∉ [c.duration, c.requestSize, c.responseSize] →
        ∀ suffix ∈ ["", "_sum", "_count"], Name.sanitize e.1.name ++ suffix ≠ c.requests)
    ⟨fun h => ⟨h.1, h.2.1, h.2.2⟩, fun h => ⟨h.counters, h.gauges, h.summaries⟩⟩

theorem labelsOf_injective {k k' : Triple} (same : labelsOf k = labelsOf k') : k = k' := by
  obtain ⟨status, method, path⟩ := k
  obtain ⟨status', method', path'⟩ := k'
  simp only [labelsOf, List.cons.injEq, Prod.mk.injEq, true_and, and_true] at same
  obtain ⟨code, rfl, rfl⟩ := same
  rw [Decimal.natural_injective code]

/-- The series after some observations. -/
theorem mem_counted {c : Collectors} {os : List Observation} {e : Key × UInt64} :
    e ∈ Table.countAll (fun o => ⟨c.requests, labels o⟩) os [] ↔
      ∃ o ∈ os, e = (⟨c.requests, labelsOf o.triple⟩,
        UInt64.ofNat (os.countP (·.triple = o.triple))) := by
  have count : ∀ o : Observation, os.countP (fun p => (⟨c.requests, labels p⟩ : Key) =
      ⟨c.requests, labelsOf o.triple⟩) = os.countP (·.triple = o.triple) := by
    intro o
    congr 1
    funext p
    refine decide_eq_decide.mpr ⟨fun same => labelsOf_injective ?_, fun same => ?_⟩
    · exact congrArg Key.labels same
    · exact congrArg (Key.mk c.requests) (congrArg labelsOf same)
  obtain ⟨key, v⟩ := e
  rw [Table.mem_countAll]
  constructor
  · rintro ⟨some, rfl⟩
    obtain ⟨o, inside, own⟩ := List.countP_pos_iff.mp (Nat.pos_of_ne_zero some)
    have same : (⟨c.requests, labels o⟩ : Key) = key := by simpa using own
    subst same
    exact ⟨o, inside, congrArg _ (congrArg _ (count o))⟩
  · rintro ⟨o, inside, same⟩
    cases same
    rw [count]
    refine ⟨Nat.ne_of_gt (List.countP_pos_iff.mpr ⟨o, inside, by simp⟩), rfl⟩

/-! ## Reading a line of the counter -/

/-- A triple as it is read of a page. -/
def readTriple (k : Triple) : Triple := (k.1, k.2.1, String.ofList (Label.collapse k.2.2.toList))

theorem readTriple_eq_iff {k : Triple} : readTriple k = k ↔ Label.Unpaired k.2.2.toList := by
  obtain ⟨status, method, path⟩ := k
  simp only [readTriple, Prod.mk.injEq, true_and]
  rw [← Label.collapse_eq_iff, ← String.toList_inj, String.toList_ofList]

theorem isDigit_of_mem_natural {n : Nat} {c : Char} (member : c ∈ (Decimal.natural n).toList) :
    c.isDigit = true := by
  rw [Decimal.natural, String.toList_ofList] at member
  exact Nat.isDigit_of_mem_toDigits (by decide) (by decide) member

theorem token_of_legal {o : Observation} (legal : o.Legal) {c : Char}
    (member : c ∈ o.method.toList) : Text.isTokenChar c = true := by
  have token := legal.method
  rw [Text.isToken, Bool.and_eq_true, List.all_eq_true] at token
  exact token.2 c member

theorem asRead_labelsOf {o : Observation} (legal : o.Legal) :
    (labelsOf o.triple).map Label.asRead = labelsOf (readTriple o.triple) := by
  have code : '\\' ∉ (Decimal.natural o.status).toList :=
    fun member => absurd (isDigit_of_mem_natural member) (by decide)
  have method : '\\' ∉ o.method.toList :=
    fun member => absurd (token_of_legal legal member) (by decide)
  have first := Label.asRead_of_no_backslash (show Label.sanitizeKey "code" = "code" by decide) code
  have second :=
    Label.asRead_of_no_backslash (show Label.sanitizeKey "method" = "method" by decide) method
  have third : Label.sanitizeKey "path" = "path" := by decide
  simp only [labelsOf, Observation.triple, List.map_cons, List.map_nil, first, second]
  simp only [Label.asRead, third, readTriple]

theorem unmixed_of_legal {o : Observation} (legal : o.Legal) :
    ∀ label ∈ labelsOf o.triple, Label.Unmixed label.2.toList := by
  intro label member
  refine .inl ?_
  simp only [labelsOf, List.mem_cons, List.not_mem_nil, or_false] at member
  rcases member with rfl | rfl | rfl
  · exact fun feed => absurd (isDigit_of_mem_natural feed) (by decide)
  · exact fun feed => absurd (token_of_legal legal feed) (by decide)
  · exact legal.path

/-- A line of the counter. -/
def line (c : Collectors) (labels : List String) (text : String) : Sample :=
  { role := .value, name := c.requests, labels, value := text }

theorem read?_line {c : Collectors} (valid : Name.isValid c.requests = true) {o : Observation}
    (legal : o.Legal) (text : String) :
    Line.read? (c.line (Label.writeAll (labelsOf o.triple)) text).line =
      some ⟨c.requests, labelsOf (readTriple o.triple), text⟩ := by
  have written : Label.writeAll (labelsOf o.triple) = (labelsOf o.triple).map Label.write :=
    congrArg _ (Label.distinct_of_nodup (by simp [labelsOf]))
  have read := Line.read?_line (s := c.line (Label.writeAll (labelsOf o.triple)) text)
    (Name.isRest_of_isValid valid) written (unmixed_of_legal legal)
  rw [read, asRead_labelsOf legal]
  rfl

theorem series_line (c : Collectors) (labels : List String) (n : Nat) :
    Line.series (c.line labels (Decimal.natural n)).line = (c.line labels "").line := by
  refine Line.series_line (s := c.line labels (Decimal.natural n)) ?_
  intro blank
  have digit : ' ' ∈ Decimal.digitsOf n := by simpa [line, Decimal.natural] using blank
  exact absurd (Nat.isDigit_of_mem_toDigits (by decide) (by decide) digit) (by decide)

/-! ## The lines of a page -/

variable {c : Collectors} {r : Registry} {os : List Observation}

/-- What the page of a registry rests on whose counter holds some observations. -/
structure Counted (c : Collectors) (r : Registry) (os : List Observation) : Prop where
  valid : Name.isValid c.requests = true
  /-- The counter is not mixed with anything else on the page. -/
  lines : Page.linesOf c.requests (Page.ofRegistry r).text =
    (Page.seriesOf (fun _ v => v) c.requests r.counters).map fun e =>
      (c.line e.1 (Decimal.natural e.2.toNat)).line
  series : r.counters.filter (fun e => Name.sanitize e.1.name = c.requests) =
    Table.countAll (fun o => ⟨c.requests, labels o⟩) os []
  legal : ∀ o ∈ os, o.Legal

namespace Counted

/-- Each series on the page is that of an observation. -/
theorem mem_seriesOf (h : Counted c r os) :
    ∀ shown ∈ Page.seriesOf (fun _ v => v) c.requests r.counters, ∃ o ∈ os,
      shown.1 = Label.writeAll (labelsOf o.triple) ∧
        shown.2 = UInt64.ofNat (os.countP (·.triple = o.triple)) := by
  refine Page.mem_seriesOf (p := fun shown v => ∃ o ∈ os,
    shown = Label.writeAll (labelsOf o.triple) ∧
      v = UInt64.ofNat (os.countP (·.triple = o.triple))) ?_ fun _ _ _ _ later => later
  intro e inside named
  have counted : e ∈ r.counters.filter (fun e => Name.sanitize e.1.name = c.requests) :=
    List.mem_filter.mpr ⟨inside, by simpa using named⟩
  rw [h.series] at counted
  obtain ⟨o, observed, rfl⟩ := mem_counted.mp counted
  exact ⟨o, observed, rfl, rfl⟩

/-- What is read of a page are triples that were observed, and counts of 64 bits. -/
theorem observed_of_read (h : Counted c r os) {read : Option Line}
    (member : read ∈ (Page.linesOf c.requests (Page.ofRegistry r).text).map Line.read?) :
    ∃ o ∈ os, read = some ⟨c.requests, labelsOf (readTriple o.triple),
      Decimal.natural (os.countP (·.triple = o.triple) % 2 ^ 64)⟩ := by
  rw [h.lines, List.map_map] at member
  obtain ⟨shown, inside, rfl⟩ := List.mem_map.mp member
  obtain ⟨o, observed, labels, count⟩ := h.mem_seriesOf shown inside
  refine ⟨o, observed, ?_⟩
  simp only [Function.comp_apply, labels, count, UInt64.toNat_ofNat']
  exact read?_line h.valid (h.legal o observed) _

/-- If a page can be read back, each triple is read of a line whose path it may have lost something
of. -/
theorem origin (h : Counted c r os) (back : ReadsBack c (Page.ofRegistry r).text os)
    {o : Observation} (observed : o ∈ os) :
    ∃ o' ∈ os, readTriple o'.triple = o.triple ∧
      os.countP (·.triple = o'.triple) % 2 ^ 64 = os.countP (·.triple = o.triple) := by
  have wanted : some (⟨c.requests, labelsOf o.triple,
      Decimal.natural (os.countP (·.triple = o.triple))⟩ : Line) ∈ (c.expected os).map some := by
    refine List.mem_map.mpr ⟨_, List.mem_map.mpr ⟨o.triple, ?_, rfl⟩, rfl⟩
    exact List.mem_dedup.mpr (List.mem_map_of_mem observed)
  obtain ⟨o', observed', same⟩ := h.observed_of_read (back.lines.mem_iff.mpr wanted)
  simp only [Option.some.injEq, Line.mk.injEq, true_and] at same
  refine ⟨o', observed', (labelsOf_injective same.1).symm, ?_⟩
  exact (Decimal.digitsOf_injective (String.ofList_injective same.2)).symm

/-- If a page can be read back, a path that is lost was read of a longer one, which is lost too. -/
theorem longer_of_lost (h : Counted c r os) (back : ReadsBack c (Page.ofRegistry r).text os)
    {o : Observation} (observed : o ∈ os) (lost : ¬ Label.Unpaired o.path.toList) :
    ∃ o' ∈ os, ¬ Label.Unpaired o'.path.toList ∧
      o.path.toList.length < o'.path.toList.length := by
  obtain ⟨o', observed', same, -⟩ := h.origin back observed
  have path : Label.collapse o'.path.toList = o.path.toList := by
    have third := congrArg (fun k : Triple => k.2.2.toList) same
    simpa [readTriple, Observation.triple] using third
  have lost' : ¬ Label.Unpaired o'.path.toList := by
    intro kept
    rw [Label.collapse_eq_iff.mpr kept] at path
    exact lost (path ▸ kept)
  have less := Label.length_collapse_lt lost'
  rw [path] at less
  exact ⟨o', observed', lost', less⟩

/-- A page that can be read back has lost nothing. -/
theorem faithful_of_readsBack (h : Counted c r os)
    (back : ReadsBack c (Page.ofRegistry r).text os) : ∀ o ∈ os, o.Faithful os := by
  -- The longest path that is lost would be read of a longer one.
  have kept := forall_of_greater fun o observed lost => h.longer_of_lost back observed lost
  intro o observed
  refine ⟨kept o observed, ?_⟩
  obtain ⟨o', observed', same, count⟩ := h.origin back observed
  rw [← count]
  exact Nat.mod_lt _ (by decide)

/-- What tells the triples apart is different for each series. -/
theorem nodup_map_counted {β : Type} {f : Key × UInt64 → β}
    (tells : ∀ o ∈ os, ∀ o' ∈ os, ∀ v v', f (⟨c.requests, labelsOf o.triple⟩, v) =
      f (⟨c.requests, labelsOf o'.triple⟩, v') → o.triple = o'.triple) :
    ((Table.countAll (fun o => ⟨c.requests, labels o⟩) os []).map f).Nodup := by
  refine List.Nodup.map_on ?_ (List.Nodup.of_map Prod.fst (Table.nodup_countAll _ os (by simp)))
  intro e inside e' inside' same
  obtain ⟨o, observed, rfl⟩ := mem_counted.mp inside
  obtain ⟨o', observed', rfl⟩ := mem_counted.mp inside'
  rw [tells o observed o' observed' _ _ same]

variable (h : Counted c r os) (faithful : ∀ o ∈ os, o.Faithful os)

include h faithful

/-- What stands before the value of a line tells the triple, if nothing is lost. -/
theorem triple_of_written {o o' : Observation} (observed : o ∈ os) (observed' : o' ∈ os)
    (same : (c.line (Label.writeAll (labelsOf o.triple)) "").line =
      (c.line (Label.writeAll (labelsOf o'.triple)) "").line) : o.triple = o'.triple := by
  have read := congrArg Line.read? same
  rw [read?_line h.valid (h.legal o observed), read?_line h.valid (h.legal o' observed'),
    readTriple_eq_iff.mpr (faithful o observed).path,
    readTriple_eq_iff.mpr (faithful o' observed').path] at read
  simp only [Option.some.injEq, Line.mk.injEq, true_and, and_true] at read
  exact labelsOf_injective read

theorem lines_of_faithful :
    Page.linesOf c.requests (Page.ofRegistry r).text =
      (Table.countAll (fun o => ⟨c.requests, labels o⟩) os []).map fun e =>
        (c.line (Label.writeAll e.1.labels) (Decimal.natural e.2.toNat)).line := by
  have apart : ((r.counters.filter fun e => Name.sanitize e.1.name = c.requests).map fun e =>
      Label.writeAll e.1.labels).Nodup := by
    rw [h.series]
    refine nodup_map_counted fun o observed o' observed' _ _ same => ?_
    exact h.triple_of_written faithful observed observed'
      (congrArg (fun labels => (c.line labels "").line) same)
  rw [h.lines, Page.seriesOf_of_nodup apart, h.series, List.map_map]
  rfl

/-- What is read of a page that loses nothing. -/
theorem read_of_faithful :
    (Page.linesOf c.requests (Page.ofRegistry r).text).map Line.read? =
      (Table.countAll (fun o => ⟨c.requests, labels o⟩) os []).map fun e =>
        some (⟨c.requests, e.1.labels, Decimal.natural e.2.toNat⟩ : Line) := by
  rw [h.lines_of_faithful faithful, List.map_map]
  refine List.map_congr_left fun e inside => ?_
  obtain ⟨o, observed, rfl⟩ := mem_counted.mp inside
  rw [Function.comp_apply, read?_line h.valid (h.legal o observed),
    readTriple_eq_iff.mpr (faithful o observed).path]

theorem perm_expected_of_faithful :
    ((Page.linesOf c.requests (Page.ofRegistry r).text).map Line.read?).Perm
      ((c.expected os).map some) := by
  have count : ∀ o ∈ os, (UInt64.ofNat (os.countP (·.triple = o.triple))).toNat =
      os.countP (·.triple = o.triple) := by
    intro o observed
    rw [UInt64.toNat_ofNat', Nat.mod_eq_of_lt (faithful o observed).count]
  rw [h.read_of_faithful faithful, expected, List.map_map]
  refine (List.perm_ext_iff_of_nodup ?_ ?_).mpr fun line => ⟨fun member => ?_, fun member => ?_⟩
  · refine nodup_map_counted fun o _ o' _ _ _ same => ?_
    simp only [Option.some.injEq, Line.mk.injEq, true_and] at same
    exact labelsOf_injective same.1
  · refine (List.nodup_dedup _).map fun k k' same => ?_
    simp only [Function.comp_apply, Option.some.injEq, Line.mk.injEq, true_and] at same
    exact labelsOf_injective same.1
  · obtain ⟨e, inside, rfl⟩ := List.mem_map.mp member
    obtain ⟨o, observed, rfl⟩ := mem_counted.mp inside
    rw [count o observed]
    exact List.mem_map.mpr ⟨o.triple, List.mem_dedup.mpr (List.mem_map_of_mem observed), rfl⟩
  · obtain ⟨k, inside, rfl⟩ := List.mem_map.mp member
    obtain ⟨o, observed, rfl⟩ := List.mem_map.mp (List.mem_dedup.mp inside)
    refine List.mem_map.mpr ⟨_, mem_counted.mpr ⟨o, observed, rfl⟩, ?_⟩
    rw [count o observed]
    rfl

theorem nodup_series_of_faithful :
    ((Page.linesOf c.requests (Page.ofRegistry r).text).map Line.series).Nodup := by
  have series : (Page.linesOf c.requests (Page.ofRegistry r).text).map Line.series =
      (Table.countAll (fun o => ⟨c.requests, labels o⟩) os []).map fun e =>
        (c.line (Label.writeAll e.1.labels) "").line := by
    rw [h.lines_of_faithful faithful, List.map_map]
    exact List.map_congr_left fun e _ => series_line c _ _
  rw [series]
  exact nodup_map_counted fun o observed o' observed' _ _ same =>
    h.triple_of_written faithful observed observed' same

/-- A page that loses nothing can be read back. -/
theorem readsBack_of_faithful : ReadsBack c (Page.ofRegistry r).text os where
  lines := h.perm_expected_of_faithful faithful
  apart := h.nodup_series_of_faithful faithful

end Counted

/-- A page can be read back exactly if nothing is lost of a path, and no count is too large. -/
theorem readsBack_iff (h : Counted c r os) :
    ReadsBack c (Page.ofRegistry r).text os ↔ ∀ o ∈ os, o.Faithful os :=
  ⟨h.faithful_of_readsBack, h.readsBack_of_faithful⟩

/-! ## The families of a subsystem -/

variable {id : RegistryId} {subsystem : String}

/-- The names of families that were registered are valid. -/
theorem isValid_of_register {t next : Telemetry} {c : Collectors}
    (done : register t id subsystem = (next, .ok c)) :
    ∀ f ∈ (ofSubsystem id subsystem).claims, Name.isValid f.name = true := by
  intro f member
  have accepted := free_of_register done f member
  rw [Registry.refusal?] at accepted
  split at accepted
  · next valid => exact valid
  · cases accepted

theorem qualify_append (name suffix : String) :
    Name.qualify subsystem name ++ suffix = Name.qualify subsystem (name ++ suffix) := by
  rw [Name.qualify, Name.qualify]
  split
  · rfl
  · simp only [String.append_assoc]

/-- The lines of the summaries have other names than those of the counter. -/
theorem summaries_apart
    (valid : ∀ f ∈ (ofSubsystem id subsystem).claims, Name.isValid f.name = true)
    (alone : (ofSubsystem id subsystem).AloneIn r) :
    ∀ e ∈ r.summaries, ∀ suffix ∈ ["", "_sum", "_count"],
      Name.sanitize e.1.name ++ suffix ≠ (ofSubsystem id subsystem).requests := by
  intro e inside suffix known
  by_cases own : e.1.name ∈ [(ofSubsystem id subsystem).duration,
      (ofSubsystem id subsystem).requestSize, (ofSubsystem id subsystem).responseSize]
  · have names : ∃ name ∈ ["request_duration_microseconds", "request_size_bytes",
        "response_size_bytes"], e.1.name = Name.qualify subsystem name := by
      simp only [List.mem_cons, List.not_mem_nil, or_false] at own
      rcases own with own | own | own
      · exact ⟨_, by simp, own⟩
      · exact ⟨_, by simp, own⟩
      · exact ⟨_, by simp, own⟩
    have kept : Name.sanitize e.1.name = e.1.name := by
      refine (Name.sanitize_eq_self_iff _).mpr (.inr ?_)
      simp only [List.mem_cons, List.not_mem_nil, or_false] at own
      rcases own with own | own | own
      · exact own ▸ valid _ (.tail _ (.head _))
      · exact own ▸ valid _ (.tail _ (.tail _ (.head _)))
      · exact own ▸ valid _ (.tail _ (.tail _ (.tail _ (.head _))))
    obtain ⟨name, family, same⟩ := names
    rw [kept, same, qualify_append]
    intro mixed
    have different : ∀ name ∈ ["request_duration_microseconds", "request_size_bytes",
        "response_size_bytes"], ∀ suffix ∈ ["", "_sum", "_count"],
          name ++ suffix ≠ "requests_total" := by
      decide
    exact different name family suffix known (Name.qualify_injective subsystem mixed)
  · exact alone.summaries e inside own suffix known

/-- What the families show once some requests were observed. -/
theorem counted_of_readings
    (valid : ∀ f ∈ (ofSubsystem id subsystem).claims, Name.isValid f.name = true)
    (alone : (ofSubsystem id subsystem).AloneIn r) (legal : ∀ o ∈ os, o.Legal)
    (shown : (ofSubsystem id subsystem).readingsIn r =
      some (os.foldl (Readings.observe (ofSubsystem id subsystem)) {})) :
    Counted (ofSubsystem id subsystem) r os := by
  have name := valid _ (.head _)
  change Name.isValid (ofSubsystem id subsystem).requests = true at name
  have named : (ofSubsystem id subsystem).requests ≠ "" := by
    intro empty
    rw [empty] at name
    cases name
  have kept : Name.sanitize (ofSubsystem id subsystem).requests =
      (ofSubsystem id subsystem).requests :=
    (Name.sanitize_eq_self_iff _).mpr (.inr name)
  refine ⟨name, ?_, ?_, legal⟩
  · rw [Page.linesOf_text (Page.clean_ofRegistry r) named,
      Page.samples_counter alone.gauges (summaries_apart valid alone), List.map_map]
    rfl
  · have requests := (readingsIn_eq_some.mp shown).2.2.2
    rw [foldl_observe] at requests
    refine Eq.trans (List.filter_congr fun e inside => ?_) requests
    refine decide_eq_decide.mpr ⟨alone.counters e inside, fun own => ?_⟩
    rw [own, kept]

end Collectors

end Traffic

end TrafficMeter
