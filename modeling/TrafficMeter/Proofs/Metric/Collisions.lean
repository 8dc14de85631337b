import TrafficMeter.Proofs.Metric.Calls
import TrafficMeter.Proofs.Metric.WellFormed

/-!
# Collisions on a page

Claims are compared by their whole names, and a counter needs no claim. So a counter can take the
name of a summary, or without labels that of the sum or the count that a summary shows beside its
quantiles. Nothing else collides on a page.

Main statement: `wellFormed_iff`, after which calls the page of a registry is well formed.
-/

namespace TrafficMeter.Metric

namespace Page

/-! ## The lines of counters -/

section Counters

variable {r : Registry} {t : Table UInt64} {before : String → String → String → Prop}
  (asymmetric : ∀ name a b, before name a b → ¬ before name b a)
  (ordered : ∀ e ∈ t, Label.Ordered (before (Name.sanitize e.1.name)) e.1.labels)

/-- The line of a series of a counter. -/
def counterLine (name : String) (shown : List String × UInt64) : Sample :=
  { role := .value, name, labels := shown.1, value := Decimal.natural shown.2.toNat }

theorem samples_counters :
    samples (families r .counter (fun _ v => v)
      (fun name labels v => valueLine (Decimal.natural v.toNat) name labels) t) =
      (t.map fun e => Name.sanitize e.1.name).eraseDups.flatMap fun name =>
        (seriesOf (fun _ v => v) name t).map (counterLine name) := by
  rw [families_eq, samples, List.flatMap_map]
  refine List.flatMap_congr fun name _ => ?_
  rw [← List.flatMap_def, List.map_eq_flatMap]
  rfl

/-- A series without labels has a line without labels. -/
theorem exists_counterLine {e : Key × UInt64} (member : e ∈ t) (bare : e.1.labels = []) :
    ∃ s ∈ samples (families r .counter (fun _ v => v)
      (fun name labels v => valueLine (Decimal.natural v.toNat) name labels) t),
        s.name = Name.sanitize e.1.name ∧ s.Reads [] := by
  obtain ⟨shown, inside, none⟩ := List.mem_map.mp
    (((keys_seriesOf (fun _ v => v) (Name.sanitize e.1.name) t).2 []).mpr
      ⟨e, member, rfl, by rw [bare]; rfl⟩)
  refine ⟨counterLine (Name.sanitize e.1.name) shown, ?_, rfl, ?_⟩
  · rw [samples_counters]
    exact List.mem_flatMap.mpr ⟨_, List.mem_eraseDups.mpr (List.mem_map_of_mem member),
      List.mem_map_of_mem inside⟩
  · exact Sample.reads_of_bare (fun c hc => isRest_of_mem_sanitize hc) none

include asymmetric ordered

/-- A reader gets the labels of a series back. -/
theorem reads_counterLine {name : String} {shown : List String × UInt64}
    (member : shown ∈ seriesOf (fun _ v => v) name t) :
    ∃ e ∈ t, Name.sanitize e.1.name = name ∧ shown.1 = Label.writeAll e.1.labels ∧
      (counterLine name shown).Reads e.1.labels := by
  obtain ⟨e, inside, rfl, written⟩ := ((keys_seriesOf (fun _ v => v) name t).2 shown.1).mp
    (List.mem_map_of_mem member)
  refine ⟨e, inside, rfl, written.symm, ?_⟩
  have given := ordered e inside
  have read := Line.read?_line (s := counterLine (Name.sanitize e.1.name) shown)
    (fun c hc => isRest_of_mem_sanitize hc)
    (written.symm.trans (given.writeAll (asymmetric _)))
    (fun l hl => .inr (given.values l hl))
  rw [given.asRead] at read
  exact read

theorem reads_of_counter {s : Sample}
    (member : s ∈ samples (families r .counter (fun _ v => v)
      (fun name labels v => valueLine (Decimal.natural v.toNat) name labels) t)) :
    ∃ e ∈ t, s.name = Name.sanitize e.1.name ∧ s.Reads e.1.labels := by
  rw [samples_counters] at member
  obtain ⟨name, -, shown⟩ := List.mem_flatMap.mp member
  obtain ⟨series, inside, rfl⟩ := List.mem_map.mp shown
  obtain ⟨e, own, named, -, read⟩ := reads_counterLine asymmetric ordered inside
  exact ⟨e, own, named.symm, read⟩

/-- Series of counters do not collide with each other. -/
theorem apart_counters :
    (samples (families r .counter (fun _ v => v)
      (fun name labels v => valueLine (Decimal.natural v.toNat) name labels) t)).Pairwise
        Sample.Apart := by
  rw [samples_counters, List.pairwise_flatMap]
  constructor
  · intro name _
    have distinct := (keys_seriesOf (fun _ (v : UInt64) => v) name t).1
    rw [List.Nodup, List.pairwise_map] at distinct
    refine List.pairwise_map.mpr (distinct.imp_of_mem fun {a b} ha hb differ => ?_)
    obtain ⟨e, inside, rfl, written, read⟩ := reads_counterLine asymmetric ordered ha
    obtain ⟨e', inside', same, written', read'⟩ := reads_counterLine asymmetric ordered hb
    rw [Sample.apart_iff read read']
    rintro ⟨-, labels⟩
    have order := ordered e' inside'
    rw [same] at order
    rw [written, written', Label.Ordered.ext (asymmetric _) (ordered e inside) order labels]
      at differ
    exact differ rfl
  · refine (Assoc.nodup_eraseDups _).imp fun {a b} differ x hx y hy => ?_
    obtain ⟨shown, inside, rfl⟩ := List.mem_map.mp hx
    obtain ⟨shown', inside', rfl⟩ := List.mem_map.mp hy
    obtain ⟨e, -, -, -, read⟩ := reads_counterLine asymmetric ordered inside
    obtain ⟨e', -, -, -, read'⟩ := reads_counterLine asymmetric ordered inside'
    rw [Sample.apart_iff read read']
    exact fun same => differ same.1

end Counters

/-! ## The lines of summaries -/

theorem numeral_plain (q : Float) :
    ∀ c ∈ (Decimal.plainFloat q).toList, c ≠ '\n' ∧ c ≠ '"' ∧ c ≠ '\\' := by
  intro c member
  have numeral := isNumeralChar_of_mem_plain member
  refine ⟨?_, ?_, ?_⟩
  all_goals
    rintro rfl
    exact absurd numeral (by decide)

/-- The label of a quantile. -/
def quantileLabel (q : Float) : Label.Pair := ("quantile", Decimal.plainFloat q)

theorem write_quantileLabel (q : Float) :
    Label.write (quantileLabel q) = "quantile=\"" ++ Decimal.plainFloat q ++ "\"" := by
  have key : Label.sanitizeKey "quantile" ++ "=\"" = "quantile=\"" := by decide
  rw [Label.write, quantileLabel, key, Label.escape_of_plain (numeral_plain q)]

section Summaries

variable {quantiles samples : List Float} {name : String}

/-- The line of a quantile. -/
def quantileLine (name : String) (shown : Float × Float) : Sample :=
  { role := .quantile, name, labels := [Label.write (quantileLabel shown.1)]
    value := Decimal.plainFloat shown.2 }

/-- The line of a sum or a count. -/
def derivedLine (role : Role) (name suffix value : String) : Sample :=
  { role, name := name ++ suffix, labels := [], value }

theorem summaryLines_eq (quantiles samples : List Float) (name : String) :
    summaryLines quantiles name [] samples =
      (quantiles.zip (Sketch.estimates quantiles samples)).map (quantileLine name) ++
        [derivedLine .sum name "_sum" (Decimal.plainFloat (samples.foldl (· + ·) 0)),
          derivedLine .count name "_count" (Decimal.natural samples.length)] := by
  have line : quantileLine name = fun shown =>
      { role := .quantile, name
        labels := ["quantile=\"" ++ Decimal.plainFloat shown.1 ++ "\""]
        value := Decimal.plainFloat shown.2 } := by
    funext shown
    rw [quantileLine, write_quantileLabel]
  rw [line]
  rfl

variable (plain : ∀ c ∈ name.toList, Name.isRest c = true)

include plain

theorem reads_quantileLine (shown : Float × Float) :
    (quantileLine name shown).Reads [quantileLabel shown.1] := by
  have none : '\\' ∉ (quantileLabel shown.1).2.toList :=
    fun slash => (numeral_plain shown.1 _ slash).2.2 rfl
  have kept : Label.asRead (quantileLabel shown.1) = quantileLabel shown.1 :=
    Label.asRead_of_no_backslash (by decide) none
  have written : (quantileLine name shown).labels = [quantileLabel shown.1].map Label.write := rfl
  have read := Line.read?_line plain written (by simpa using .inr none)
  rw [List.map_singleton, kept] at read
  exact read

theorem reads_derivedLine {suffix : String} (word : ∀ c ∈ suffix.toList, Name.isRest c = true)
    (role : Role) (value : String) : (derivedLine role name suffix value).Reads [] := by
  refine Sample.reads_of_bare ?_ rfl
  intro c member
  rw [derivedLine, String.toList_append] at member
  exact (List.mem_append.mp member).elim (plain c) (word c)

/-- The lines of a summary without labels: one for each quantile, and two without labels for its
sum and its count. -/
theorem reads_summaryLine {s : Sample} (member : s ∈ summaryLines quantiles name [] samples) :
    (s.name = name ∧ ∃ q, s.Reads [quantileLabel q]) ∨
      ∃ suffix ∈ ["_sum", "_count"], s.name = name ++ suffix ∧ s.Reads [] := by
  rw [summaryLines_eq] at member
  rcases List.mem_append.mp member with quantile | derived
  · obtain ⟨shown, -, rfl⟩ := List.mem_map.mp quantile
    exact .inl ⟨rfl, shown.1, reads_quantileLine plain shown⟩
  · rcases List.mem_cons.mp derived with rfl | count
    · exact .inr ⟨"_sum", by simp, rfl,
        reads_derivedLine plain (List.all_eq_true.mp (by decide)) _ _⟩
    · rw [List.mem_singleton.mp count]
      exact .inr ⟨"_count", by simp, rfl,
        reads_derivedLine plain (List.all_eq_true.mp (by decide)) _ _⟩

/-- The lines of a sum and of a count are there, whatever the quantiles and the samples. -/
theorem exists_derivedLine (quantiles samples : List Float) {suffix : String}
    (known : suffix ∈ ["_sum", "_count"]) :
    ∃ s ∈ summaryLines quantiles name [] samples, s.name = name ++ suffix ∧ s.Reads [] := by
  rw [summaryLines_eq]
  simp only [List.mem_cons, List.not_mem_nil, or_false] at known
  rcases known with rfl | rfl
  · exact ⟨_, List.mem_append_right _ List.mem_cons_self, rfl,
      reads_derivedLine plain (List.all_eq_true.mp (by decide)) _ _⟩
  · exact ⟨_, List.mem_append_right _ (List.mem_cons_of_mem _ List.mem_cons_self), rfl,
      reads_derivedLine plain (List.all_eq_true.mp (by decide)) _ _⟩

/-- The lines of a summary do not collide if its quantiles are written differently. -/
theorem apart_summaryLines :
    (summaryLines quantiles name [] samples).Pairwise Sample.Apart ↔
      (quantiles.map Decimal.plainFloat).Nodup := by
  have sum : ∀ value, (derivedLine .sum name "_sum" value).Reads [] :=
    reads_derivedLine plain (List.all_eq_true.mp (by decide)) .sum
  have count : ∀ value, (derivedLine .count name "_count" value).Reads [] :=
    reads_derivedLine plain (List.all_eq_true.mp (by decide)) .count
  have quantile : ∀ a b : Float × Float, (quantileLine name a).Apart (quantileLine name b) ↔
      Decimal.plainFloat a.1 ≠ Decimal.plainFloat b.1 := by
    intro a b
    rw [Sample.apart_iff (reads_quantileLine plain a) (reads_quantileLine plain b), not_iff_not]
    constructor
    · intro same
      have label := (same.2 (quantileLabel a.1)).mp (List.mem_singleton.mpr rfl)
      exact congrArg Prod.snd (List.mem_singleton.mp label)
    · intro text
      have label : quantileLabel a.1 = quantileLabel b.1 := congrArg (Prod.mk "quantile") text
      exact ⟨rfl, fun l => by rw [label]⟩
  have zipped : ((quantiles.zip (Sketch.estimates quantiles samples)).map
      (quantileLine name)).Pairwise Sample.Apart ↔ (quantiles.map Decimal.plainFloat).Nodup := by
    have firsts : (quantiles.zip (Sketch.estimates quantiles samples)).map Prod.fst = quantiles :=
      List.map_fst_zip (by simp [Sketch.estimates])
    have same := List.pairwise_map (f := Prod.fst)
      (l := quantiles.zip (Sketch.estimates quantiles samples))
      (R := fun a b => Decimal.plainFloat a ≠ Decimal.plainFloat b)
    rw [firsts] at same
    rw [List.pairwise_map, List.Nodup, List.pairwise_map, same]
    simp only [quantile]
  rw [summaryLines_eq, List.pairwise_append, zipped, and_iff_left]
  refine ⟨List.pairwise_pair.mpr ?_, ?_⟩
  · rw [Sample.apart_iff (sum _) (count _)]
    exact fun same => absurd ((String.append_right_inj _).mp same.1) (by decide)
  · intro s member t derived
    obtain ⟨shown, -, rfl⟩ := List.mem_map.mp member
    have read := reads_quantileLine plain shown
    rcases List.mem_cons.mp derived with rfl | last
    · exact (Sample.apart_of_labelled read (sum _)).1
    · rw [List.mem_singleton.mp last]
      exact (Sample.apart_of_labelled read (count _)).1

end Summaries

/-- The lines of sums and counts tell the name of their summary. -/
theorem name_of_derived {name other suffix suffix' : String} (first : suffix ∈ ["_sum", "_count"])
    (second : suffix' ∈ ["_sum", "_count"]) (same : name ++ suffix = other ++ suffix') :
    name = other := by
  have last := congrArg (fun s : String => s.toList.getLast?) same
  simp only [List.mem_cons, List.not_mem_nil, or_false] at first second
  rcases first with rfl | rfl <;> rcases second with rfl | rfl
  · exact (String.append_left_inj _).mp same
  · simp at last
  · simp at last
  · exact (String.append_left_inj _).mp same

theorem apart_of_summaries {quantiles samples others : List Float} {name other : String}
    (plain : ∀ c ∈ name.toList, Name.isRest c = true)
    (plain' : ∀ c ∈ other.toList, Name.isRest c = true) (differ : name ≠ other) {s t : Sample}
    (first : s ∈ summaryLines quantiles name [] samples)
    (second : t ∈ summaryLines quantiles other [] others) : s.Apart t := by
  rcases reads_summaryLine plain first with ⟨named, q, read⟩ | ⟨suffix, known, named, read⟩ <;>
    rcases reads_summaryLine plain' second with
      ⟨named', q', read'⟩ | ⟨suffix', known', named', read'⟩
  · rw [Sample.apart_iff read read', named, named']
    exact fun same => differ same.1
  · exact (Sample.apart_of_labelled read read').1
  · exact (Sample.apart_of_labelled read' read).2
  · rw [Sample.apart_iff read read', named, named']
    exact fun same => differ (name_of_derived known known' same.1)

/-! ## Pages after calls -/

section Calls

variable {quantiles : List Float} {calls : List Call} {r : Registry}

/-- A page without gauges. -/
theorem ofRegistry_of_kept (kept : r.Kept quantiles calls) :
    ofRegistry r = families r .counter (fun _ v => v)
        (fun name labels v => valueLine (Decimal.natural v.toNat) name labels) r.counters ++
      families r .summary (· ++ ·) (summaryLines quantiles)
        (r.summaries.map fun e => (e.1, e.2.toList)) := by
  have none : families r .gauge (fun _ v => v)
      (fun name labels v => valueLine (Decimal.plainFloat v) name labels) r.gauges = [] := by
    rw [families_eq, kept.gauges]
    rfl
  rw [ofRegistry, none, List.append_nil, kept.quantiles]

/-- The names of the summaries of a registry. -/
def summaryNames (r : Registry) : List String := r.summaries.map (·.1.name)

theorem summaries_of_kept (kept : r.Kept quantiles calls) :
    (summaryNames r).Nodup ∧ ∀ e ∈ r.summaries, e.1.labels = [] ∧
      Name.sanitize e.1.name = e.1.name ∧ ∀ c ∈ e.1.name.toList, Name.isRest c = true := by
  have each : ∀ e ∈ r.summaries, e.1.labels = [] ∧ Name.isValid e.1.name = true :=
    fun e member => kept.summaries e.1 (List.mem_map_of_mem member)
  refine ⟨?_, fun e member => ?_⟩
  · have names : summaryNames r = (r.summaries.map Prod.fst).map Key.name :=
      (List.map_map ..).symm
    rw [names]
    refine List.Nodup.map_on (fun k hk k' hk' same => ?_) kept.distinct
    have labels := (kept.summaries k hk).1.trans (kept.summaries k' hk').1.symm
    rw [Key.mk.injEq]
    exact ⟨same, labels⟩
  · obtain ⟨none, valid⟩ := each e member
    have shown : Name.sanitize e.1.name = e.1.name :=
      (Name.sanitize_eq_self_iff _).mpr (.inr valid)
    refine ⟨none, shown, fun c inside => ?_⟩
    rw [← shown] at inside
    exact isRest_of_mem_sanitize inside

theorem samples_summaries (kept : r.Kept quantiles calls) :
    samples (families r .summary (· ++ ·) (summaryLines quantiles)
      (r.summaries.map fun e => (e.1, e.2.toList))) =
        r.summaries.flatMap fun e => summaryLines quantiles e.1.name [] e.2.toList := by
  obtain ⟨distinct, each⟩ := summaries_of_kept kept
  have names : ((r.summaries.map fun e => (e.1, e.2.toList)).map fun e =>
      Name.sanitize e.1.name) = summaryNames r := by
    rw [List.map_map]
    exact List.map_congr_left fun e member => (each e member).2.1
  rw [samples_families_of_nodup (names ▸ distinct), List.flatMap_map]
  refine List.flatMap_congr fun e member => ?_
  obtain ⟨none, shown, -⟩ := each e member
  simp only [none, shown]
  rfl

theorem apart_summaries (kept : r.Kept quantiles calls) :
    (samples (families r .summary (· ++ ·) (summaryLines quantiles)
      (r.summaries.map fun e => (e.1, e.2.toList)))).Pairwise Sample.Apart ↔
        (summaryNames r ≠ [] → (quantiles.map Decimal.plainFloat).Nodup) := by
  obtain ⟨distinct, each⟩ := summaries_of_kept kept
  rw [samples_summaries kept, List.pairwise_flatMap, and_iff_left]
  · constructor
    · intro all some
      obtain ⟨e, member⟩ := List.exists_mem_of_ne_nil r.summaries
        (fun none => some (List.map_eq_nil_iff.mpr none))
      exact (apart_summaryLines (each e member).2.2).mp (all e member)
    · intro written e member
      exact (apart_summaryLines (each e member).2.2).mpr
        (written (List.ne_nil_of_mem (List.mem_map_of_mem member)))
  · rw [summaryNames, List.Nodup, List.pairwise_map] at distinct
    refine distinct.imp_of_mem fun {e e'} he he' differ s hs t ht => ?_
    exact apart_of_summaries (each e he).2.2 (each e' he').2.2 differ hs ht

/-- When the counters and summaries of a registry do not get in each other's way. -/
structure Separate (quantiles : List Float) (calls : List Call) (summaries : List String) :
    Prop where
  /-- No counter has the name of a summary. -/
  names : ∀ name labels amounts, .count name labels amounts ∈ calls →
    Name.sanitize name ∉ summaries
  /-- No counter without labels has the name of a sum or a count. -/
  derived : ∀ name amounts, .count name [] amounts ∈ calls → ∀ summary ∈ summaries,
    ∀ suffix ∈ ["_sum", "_count"], Name.sanitize name ≠ summary ++ suffix
  /-- The quantiles that summaries show are written differently. -/
  quantiles : summaries ≠ [] → (quantiles.map Decimal.plainFloat).Nodup

theorem clean_page (r : Registry) : Clean (ofRegistry r) := by
  refine ⟨clean_ofRegistry r, fun f member => ?_⟩
  obtain ⟨name, shown⟩ : ∃ name, f.name = Name.sanitize name := by
    rcases List.mem_append.mp member with member | summary
    · rcases List.mem_append.mp member with counter | gauge
      · obtain ⟨e, -, shown, -⟩ := mem_families counter
        exact ⟨_, shown⟩
      · obtain ⟨e, -, shown, -⟩ := mem_families gauge
        exact ⟨_, shown⟩
    · obtain ⟨e, -, shown, -⟩ := mem_families summary
      exact ⟨_, shown⟩
  rw [shown]
  exact fun c hc => isRest_of_mem_sanitize hc

/-- The counters and the summaries of a page have different names if no counter has the name of a
summary. -/
theorem nodup_names_iff (kept : r.Kept quantiles calls) :
    ((ofRegistry r).map (·.name)).Nodup ↔
      ∀ e ∈ r.counters, Name.sanitize e.1.name ∉ summaryNames r := by
  obtain ⟨-, each⟩ := summaries_of_kept kept
  have counters := names_families (fun _ v => v) r .counter
    (fun name labels v => valueLine (Decimal.natural v.toNat) name labels) r.counters
  have summaries := names_families (· ++ ·) r .summary (summaryLines quantiles)
    (r.summaries.map fun e => (e.1, e.2.toList))
  have named : ∀ name, name ∈ (families r .summary (· ++ ·) (summaryLines quantiles)
      (r.summaries.map fun e => (e.1, e.2.toList))).map (·.name) ↔ name ∈ summaryNames r := by
    intro name
    rw [summaries.2, summaryNames, List.mem_map]
    constructor
    · rintro ⟨_, inside, shown⟩
      obtain ⟨e, member, rfl⟩ := List.mem_map.mp inside
      exact ⟨e, member, (each e member).2.1.symm.trans shown⟩
    · rintro ⟨e, member, same⟩
      exact ⟨_, List.mem_map_of_mem member, (each e member).2.1.trans same⟩
  rw [ofRegistry_of_kept kept, List.map_append, List.nodup_append]
  constructor
  · rintro ⟨-, -, apart⟩ e member summary
    exact apart _ ((counters.2 _).mpr ⟨e, member, rfl⟩) _ ((named _).mpr summary) rfl
  · intro apart
    refine ⟨counters.1, summaries.1, ?_⟩
    rintro name counter _ summary rfl
    obtain ⟨e, member, rfl⟩ := (counters.2 name).mp counter
    exact apart e member ((named _).mp summary)

/-- Labels that a reader gets back, in the order of their name. -/
def OrderedIn (before : String → String → String → Prop) : Call → Prop
  | .count name labels _ => Label.Ordered (before (Name.sanitize name)) labels
  | _ => True

theorem wellFormed_iff_of_kept (before : String → String → String → Prop)
    (asymmetric : ∀ name a b, before name a b → ¬ before name b a)
    (given : ∀ call ∈ calls, OrderedIn before call) (kept : r.Kept quantiles calls) :
    WellFormed (ofRegistry r).text ↔ Separate quantiles calls (summaryNames r) := by
  have counted : ∀ e ∈ r.counters, ∃ amounts, .count e.1.name e.1.labels amounts ∈ calls :=
    fun e member => (kept.counters e.1).mp (List.mem_map_of_mem member)
  have ordered : ∀ e ∈ r.counters,
      Label.Ordered (before (Name.sanitize e.1.name)) e.1.labels := by
    intro e member
    obtain ⟨amounts, call⟩ := counted e member
    exact given _ call
  have plain := fun e member => ((summaries_of_kept kept).2 e member).2.2
  have parts : samples (ofRegistry r) = _ := congrArg samples (ofRegistry_of_kept kept)
  rw [samples_append] at parts
  have summary : ∀ {s : Sample}, s ∈ samples (families r .summary (· ++ ·) (summaryLines quantiles)
      (r.summaries.map fun e => (e.1, e.2.toList))) ↔
        ∃ e ∈ r.summaries, s ∈ summaryLines quantiles e.1.name [] e.2.toList := by
    intro s
    rw [samples_summaries kept, List.mem_flatMap]
  rw [wellFormed_text_iff (clean_page r), nodup_names_iff kept, parts, List.pairwise_append,
    apart_summaries kept]
  constructor
  · rintro ⟨names, -, -, written, apart⟩
    refine ⟨?_, ?_, written⟩
    · intro name labels amounts call
      obtain ⟨e, member, key⟩ := List.mem_map.mp ((kept.counters ⟨name, labels⟩).mpr ⟨_, call⟩)
      have free := names e member
      rwa [key] at free
    · intro name amounts call taken inside suffix known same
      obtain ⟨e, member, key⟩ := List.mem_map.mp ((kept.counters ⟨name, []⟩).mpr ⟨_, call⟩)
      obtain ⟨e', member', rfl⟩ := List.mem_map.mp inside
      obtain ⟨s, shown, named, read⟩ := exists_counterLine (r := r) member (by rw [key])
      obtain ⟨t, shown', named', read'⟩ := exists_derivedLine (plain e' member') quantiles
        e'.2.toList known
      have differ := apart s shown t (summary.mpr ⟨e', member', shown'⟩)
      rw [Sample.apart_iff read read', named, named', key] at differ
      exact differ ⟨same, fun l => Iff.rfl⟩
  · rintro ⟨names, derived, written⟩
    refine ⟨?_, ?_, apart_counters asymmetric ordered, written, ?_⟩
    · intro e member
      obtain ⟨amounts, call⟩ := counted e member
      exact names _ _ _ call
    · intro s member
      rcases List.mem_append.mp member with counter | other
      · obtain ⟨e, -, -, read⟩ := reads_of_counter asymmetric ordered counter
        exact Option.isSome_iff_exists.mpr ⟨_, read⟩
      · obtain ⟨e, own, line⟩ := summary.mp other
        rcases reads_summaryLine (plain e own) line with ⟨-, q, read⟩ | ⟨suffix, -, -, read⟩
        · exact Option.isSome_iff_exists.mpr ⟨_, read⟩
        · exact Option.isSome_iff_exists.mpr ⟨_, read⟩
    · intro s counter t other
      obtain ⟨e, member, named, read⟩ := reads_of_counter asymmetric ordered counter
      obtain ⟨amounts, call⟩ := counted e member
      obtain ⟨e', own, line⟩ := summary.mp other
      rcases reads_summaryLine (plain e' own) line with
        ⟨named', q, read'⟩ | ⟨suffix, known, named', read'⟩
      · rw [Sample.apart_iff read read', named, named']
        intro same
        exact names _ _ _ call (same.1 ▸ List.mem_map_of_mem own)
      · rw [Sample.apart_iff read read', named, named']
        rintro ⟨same, labels⟩
        have bare : e.1.labels = [] := List.eq_nil_iff_forall_not_mem.mpr fun l hl =>
          List.not_mem_nil ((labels l).mp hl)
        rw [bare] at call
        exact derived _ _ call _ (List.mem_map_of_mem own) suffix known same

/-- After which calls a page is well formed: those that take no name of a summary, its sum and its
count for a counter, on a registry that tells its quantiles apart. -/
theorem wellFormed_iff (before : String → String → String → Prop)
    (asymmetric : ∀ name a b, before name a b → ¬ before name b a)
    (given : ∀ call ∈ calls, OrderedIn before call) (quantiles : List Float) :
    WellFormed (ofRegistry (({ quantiles } : Registry).callAll calls)).text ↔
      Separate quantiles calls (summaryNames (({ quantiles } : Registry).callAll calls)) :=
  wellFormed_iff_of_kept before asymmetric given (Registry.callAll_kept quantiles calls)

end Calls

/-- A summary beside a counter with labels. -/
theorem wellFormed_beside :
    WellFormed (ofRegistry (({ quantiles := [0.5, 1] } : Registry).callAll
      [.registerSummary "latency" "", .count "hits" [("code", "200"), ("path", "\"")] [1],
        .record "latency" [2], .render])).text := by
  have given : Label.Ordered (fun a b => a = "code" ∧ b = "path")
      [("code", "200"), ("path", "\"")] := ⟨by decide, by decide, by simp⟩
  have names : summaryNames (({ quantiles := [0.5, 1] } : Registry).callAll
      [.registerSummary "latency" "", .count "hits" [("code", "200"), ("path", "\"")] [1],
        .record "latency" [2], .render]) = ["latency"] := by
    decide +kernel
  refine (wellFormed_iff (fun _ a b => a = "code" ∧ b = "path") ?_ ?_ [0.5, 1]).mpr ?_
  · rintro _ _ _ ⟨rfl, rfl⟩ ⟨same, -⟩
    exact absurd same (by decide)
  · simpa [OrderedIn] using given
  · rw [names]
    refine ⟨?_, ?_, fun _ => by decide +kernel⟩
    · intro name labels amounts call
      obtain ⟨rfl, -⟩ : name = "hits" ∧ _ := by simpa using call
      decide
    · intro name amounts call
      simp at call

/-- A counter that was claimed takes the name of a sum. -/
theorem collision_of_sum :
    (Registry.empty.callAll [.registerSummary "x" "", .registerCounter "x_sum" ""]).claimed =
        ["x", "x_sum"] ∧
      ¬ WellFormed (ofRegistry (Registry.empty.callAll
        [.registerSummary "x" "", .registerCounter "x_sum" "", .count "x_sum" [] [1]])).text := by
  refine ⟨by decide +kernel, fun formed => ?_⟩
  have kept := Registry.callAll_kept Registry.defaultQuantiles
    [.registerSummary "x" "", .registerCounter "x_sum" "", .count "x_sum" [] [1]]
  have bare : Label.Ordered (fun _ _ => False) [] := ⟨by simp, by simp, by simp⟩
  have separate := (wellFormed_iff_of_kept (fun _ _ _ => False) (fun _ _ _ _ => id)
    (by simpa [OrderedIn] using bare) kept).mp formed
  refine separate.derived "x_sum" [1] (by simp) "x" ?_ "_sum" (by simp) (by decide)
  exact List.mem_singleton.mpr (by decide +kernel)

end Page

end TrafficMeter.Metric
