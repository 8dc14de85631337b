import Mathlib.Data.List.Nodup
import TrafficMeter.Proofs.Metric.Pages

/-!
# Well-formed pages

A page should tell the kind of a name once and show each series on one line. A series is what a
reader takes it for: a name and a set of labels. Labels that are given in a fixed order, with keys
and values that the page keeps, are told by their set.

Main statement: `wellFormed_text_iff`, that a text is well formed if the families and samples behind
it are apart.
-/

namespace TrafficMeter.Metric

namespace Line

/-- Two lines show one series: their names are the same, and so are their sets of labels. -/
def SameSeries (a b : Line) : Prop := a.name = b.name ∧ ∀ l, l ∈ a.labels ↔ l ∈ b.labels

/-- What a line that tells a kind starts with. -/
def typeMark : String := "# TYPE "

/-- The name whose kind a line tells, if it tells one. -/
def typed? (line : String) : Option String :=
  if typeMark.toList.isPrefixOf line.toList then
    some (String.ofList ((line.toList.drop typeMark.toList.length).takeWhile (· != ' ')))
  else none

/-- Whether a line is a comment. -/
def isComment (line : String) : Bool := line.toList.head? == some '#'

/-- Whether a line is neither empty nor a comment. -/
def isSample (line : String) : Bool := line != "" && line.toList.head? != some '#'

end Line

/-- The comments before the samples of a family. -/
def Family.heading (f : Family) : List String := f.helpLines ++ [f.typeLine]

namespace Page

/-- The lines of a text. -/
def linesIn (text : String) : List String := (Text.split '\n' text.toList).map String.ofList

/-- A page on which each name has one kind and each series has one line. -/
structure WellFormed (text : String) : Prop where
  types : ((linesIn text).filterMap Line.typed?).Nodup
  readable : ∀ line ∈ (linesIn text).filter Line.isSample, (Line.read? line).isSome
  apart : (((linesIn text).filter Line.isSample).filterMap Line.read?).Pairwise
    fun a b => ¬ a.SameSeries b

end Page

/-! ## The lines of a text -/

/-- A sample line and the labels that are read of it. -/
def Sample.Reads (s : Sample) (labels : List Label.Pair) : Prop :=
  Line.read? s.line = some ⟨s.name, labels, s.value⟩

/-- Two sample lines that show different series to a reader. -/
def Sample.Apart (s t : Sample) : Prop :=
  ∀ a, Line.read? s.line = some a → ∀ b, Line.read? t.line = some b → ¬ a.SameSeries b

theorem Sample.apart_iff {s t : Sample} {labels others : List Label.Pair} (first : s.Reads labels)
    (second : t.Reads others) :
    s.Apart t ↔ ¬ (s.name = t.name ∧ ∀ l, l ∈ labels ↔ l ∈ others) := by
  constructor
  · exact fun apart => apart _ first _ second
  · intro differ a ha b hb
    rw [first] at ha
    rw [second] at hb
    cases ha
    cases hb
    exact differ

theorem Sample.reads_of_bare {s : Sample} (plain : ∀ c ∈ s.name.toList, Name.isRest c = true)
    (bare : s.labels = []) : s.Reads [] := by
  have written : s.labels = ([] : List Label.Pair).map Label.write := bare
  exact Line.read?_line plain written (by simp)

/-- A line with a label never collides with one without. -/
theorem Sample.apart_of_labelled {s t : Sample} {l : Label.Pair} (first : s.Reads [l])
    (second : t.Reads []) : s.Apart t ∧ t.Apart s := by
  rw [apart_iff first second, apart_iff second first]
  exact ⟨fun same => by simpa using same.2 l, fun same => by simpa using same.2 l⟩

namespace Line

/-- A line that starts like a name tells no kind. -/
theorem typed?_of_head {line : String} (other : line.toList.head? ≠ some '#') :
    typed? line = none := by
  rw [typed?, if_neg]
  intro mark
  obtain ⟨rest, text⟩ := List.isPrefixOf_iff_prefix.mp mark
  apply other
  rw [← text]
  rfl

theorem typed?_typeLine {f : Family} (plain : ∀ c ∈ f.name.toList, Name.isRest c = true) :
    typed? f.typeLine = some f.name := by
  have text : f.typeLine.toList =
      typeMark.toList ++ (f.name.toList ++ ' ' :: f.kind.word.toList) := by
    simp [Family.typeLine, typeMark]
  have solid : ∀ c ∈ f.name.toList, (c != ' ') = true := by
    intro c member
    rw [bne_iff_ne]
    rintro rfl
    exact absurd (plain _ member) (by decide)
  rw [typed?, text, if_pos (List.isPrefixOf_iff_prefix.mpr (List.prefix_append ..)),
    List.drop_left, List.takeWhile_append_of_pos solid]
  simp

theorem typed?_helpLines {f : Family} : ∀ line ∈ f.helpLines, typed? line = none := by
  intro line member
  rw [Family.helpLines] at member
  split at member
  · rw [List.mem_singleton.mp member, typed?, if_neg]
    simp [typeMark]
  · cases member

/-- A sample line is neither empty nor a comment. -/
theorem head?_line {s : Sample} (plain : ∀ c ∈ s.name.toList, Name.isRest c = true) :
    s.line ≠ "" ∧ s.line.toList.head? ≠ some '#' := by
  have text := List.takeWhile_append_dropWhile (p := Name.isRest) (l := s.line.toList)
  rw [(split_line plain).1, (split_line plain).2] at text
  constructor
  · intro empty
    rw [empty] at text
    simp at text
  · rw [← text]
    cases chars : s.name.toList with
    | nil => split <;> simp
    | cons c rest =>
        have rest : Name.isRest c = true := plain c (by simp [chars])
        simp only [List.cons_append, List.head?_cons, Option.some.injEq, ne_eq]
        rintro rfl
        exact absurd rest (by decide)

theorem isSample_line {s : Sample} (plain : ∀ c ∈ s.name.toList, Name.isRest c = true) :
    isSample s.line = true := by
  obtain ⟨some, other⟩ := head?_line plain
  simp [isSample, some, other]

end Line

namespace Page

/-- A page whose lines can be told apart, and its families by their names. -/
structure Clean (p : Page) : Prop where
  families : ∀ f ∈ p, f.Clean
  named : ∀ f ∈ p, ∀ c ∈ f.name.toList, Name.isRest c = true

variable {p : Page}

theorem typed_text (clean : p.Clean) :
    (linesIn p.text).filterMap Line.typed? = p.map (·.name) := by
  have empty : Line.typed? "" = none := Line.typed?_of_head (by simp)
  have each : ∀ f ∈ p, (f.lines ++ [""]).filterMap Line.typed? = [f.name] := by
    intro f inside
    have help : f.helpLines.filterMap Line.typed? = [] :=
      List.filterMap_eq_nil_iff.mpr Line.typed?_helpLines
    have samples : (f.series.flatten.map Sample.line).filterMap Line.typed? = [] := by
      rw [List.filterMap_eq_nil_iff]
      intro line member
      obtain ⟨s, shown, rfl⟩ := List.mem_map.mp member
      exact Line.typed?_of_head (Line.head?_line ((clean.families f inside).named s shown)).2
    rw [Family.lines, List.filterMap_append, List.filterMap_append, help,
      List.filterMap_cons_some (Line.typed?_typeLine (clean.named f inside)), samples]
    simp [empty]
  rw [linesIn, split_text clean.families, List.filterMap_append, lines, List.filterMap_flatMap,
    List.flatMap_congr each]
  simp [empty, List.map_eq_flatMap]

theorem samples_text (clean : p.Clean) :
    (linesIn p.text).filter Line.isSample = p.samples.map Sample.line := by
  have each : ∀ f ∈ p, (f.lines ++ [""]).filter Line.isSample =
      f.series.flatten.map Sample.line := by
    intro f inside
    have comment : ∀ line : String, line.toList.head? = some '#' → Line.isSample line = false := by
      intro line first
      simp [Line.isSample, first]
    have help : f.helpLines.filter Line.isSample = [] := by
      rw [List.filter_eq_nil_iff]
      intro line member
      rw [Family.helpLines] at member
      split at member
      · rw [List.mem_singleton.mp member, comment _ (by simp)]
        decide
      · cases member
    have samples : (f.series.flatten.map Sample.line).filter Line.isSample =
        f.series.flatten.map Sample.line := by
      rw [List.filter_eq_self]
      intro line member
      obtain ⟨s, shown, rfl⟩ := List.mem_map.mp member
      exact Line.isSample_line ((clean.families f inside).named s shown)
    rw [Family.lines, List.filter_append, List.filter_append, help, List.nil_append,
      List.filter_cons_of_neg (by simp [comment f.typeLine (by simp [Family.typeLine])]), samples]
    simp [Line.isSample]
  rw [linesIn, split_text clean.families, List.filter_append, lines, List.filter_flatMap,
    List.flatMap_congr each, samples, List.map_flatMap]
  simp [Line.isSample]

/-- The comments of a text are what its families are headed by. -/
theorem comments_text (clean : p.Clean) :
    (linesIn p.text).filter Line.isComment = p.flatMap Family.heading := by
  have each : ∀ f ∈ p, (f.lines ++ [""]).filter Line.isComment = f.heading := by
    intro f inside
    have heading : f.heading.filter Line.isComment = f.heading := by
      rw [List.filter_eq_self]
      intro line member
      rcases List.mem_append.mp member with help | kind
      · rw [Family.helpLines] at help
        split at help
        · rw [List.mem_singleton.mp help]
          simp [Line.isComment]
        · cases help
      · rw [List.mem_singleton.mp kind]
        simp [Line.isComment, Family.typeLine]
    have samples : (f.series.flatten.map Sample.line).filter Line.isComment = [] := by
      rw [List.filter_eq_nil_iff]
      intro line member
      obtain ⟨s, shown, rfl⟩ := List.mem_map.mp member
      simpa [Line.isComment] using (Line.head?_line ((clean.families f inside).named s shown)).2
    have parts : f.lines ++ [""] = f.heading ++ f.series.flatten.map Sample.line ++ [""] := by
      simp [Family.lines, Family.heading]
    rw [parts, List.filter_append, List.filter_append, heading, samples]
    simp [Line.isComment]
  rw [linesIn, split_text clean.families, List.filter_append, lines, List.filter_flatMap,
    List.flatMap_congr each]
  simp [Line.isComment]

/-- What a reader gets of the text of a page is what its families and samples are. -/
theorem wellFormed_text_iff (clean : p.Clean) :
    WellFormed p.text ↔ (p.map (·.name)).Nodup ∧
      (∀ s ∈ p.samples, (Line.read? s.line).isSome) ∧ p.samples.Pairwise Sample.Apart := by
  constructor
  · rintro ⟨types, readable, apart⟩
    rw [typed_text clean] at types
    rw [samples_text clean] at readable apart
    rw [List.filterMap_map, List.pairwise_filterMap] at apart
    exact ⟨types, fun s member => readable _ (List.mem_map_of_mem member), apart⟩
  · rintro ⟨types, readable, apart⟩
    refine ⟨by rwa [typed_text clean], ?_, ?_⟩
    · rw [samples_text clean]
      intro line member
      obtain ⟨s, shown, rfl⟩ := List.mem_map.mp member
      exact readable s shown
    · rw [samples_text clean, List.filterMap_map, List.pairwise_filterMap]
      exact apart

/-! ## Series whose names and labels differ -/

variable {α : Type} {both : α → α → α}

/-- The names of the families of a table are those of its series, each once. -/
theorem names_families (both : α → α → α) (r : Registry) (kind : Kind)
    (lines : String → List String → α → List Sample)
    (t : Table α) :
    ((families r kind both lines t).map (·.name)).Nodup ∧
      ∀ name, name ∈ (families r kind both lines t).map (·.name) ↔
        ∃ e ∈ t, Name.sanitize e.1.name = name := by
  have names : (families r kind both lines t).map (·.name) =
      (t.map fun e => Name.sanitize e.1.name).eraseDups := by
    rw [families_eq, List.map_map]
    exact List.map_id _
  rw [names]
  refine ⟨Assoc.nodup_eraseDups _, fun name => ?_⟩
  rw [List.mem_eraseDups, List.mem_map]

theorem keys_join (both : α → α → α) (labels : List String) (v : α)
    (acc : List (List String × α)) :
    (join both labels v acc).map Prod.fst =
      if labels ∈ acc.map Prod.fst then acc.map Prod.fst else acc.map Prod.fst ++ [labels] := by
  induction acc with
  | nil => simp [join]
  | cons e rest ih =>
      obtain ⟨other, u⟩ := e
      by_cases same : other = labels
      · subst same
        simp [join]
      · rw [join, if_neg same, List.map_cons, ih]
        simp only [List.map_cons, List.mem_cons, Ne.symm same, false_or]
        split <;> simp

/-- A name shows each set of written labels once, and those of all its series. -/
theorem keys_seriesOf (both : α → α → α) (name : String) (t : Table α) :
    ((seriesOf both name t).map Prod.fst).Nodup ∧
      ∀ labels, labels ∈ (seriesOf both name t).map Prod.fst ↔
        ∃ e ∈ t, Name.sanitize e.1.name = name ∧ Label.writeAll e.1.labels = labels := by
  have go : ∀ (entries : Table α) (acc : List (List String × α)), (acc.map Prod.fst).Nodup →
      ((entries.foldl (fun acc e => join both (Label.writeAll e.1.labels) e.2 acc) acc).map
          Prod.fst).Nodup ∧
        ∀ labels, labels ∈ (entries.foldl (fun acc e =>
            join both (Label.writeAll e.1.labels) e.2 acc) acc).map Prod.fst ↔
          labels ∈ acc.map Prod.fst ∨ ∃ e ∈ entries, Label.writeAll e.1.labels = labels := by
    intro entries
    induction entries with
    | nil => exact fun acc distinct => ⟨distinct, by simp⟩
    | cons e rest ih =>
        intro acc distinct
        have keys := keys_join both (Label.writeAll e.1.labels) e.2 acc
        have grown : ((join both (Label.writeAll e.1.labels) e.2 acc).map Prod.fst).Nodup := by
          rw [keys]
          split
          · exact distinct
          · next new => exact List.perm_append_comm.nodup (List.nodup_cons.mpr ⟨new, distinct⟩)
        obtain ⟨nodup, mem⟩ := ih _ grown
        refine ⟨nodup, fun labels => ?_⟩
        rw [List.foldl_cons, mem, keys, List.exists_mem_cons_iff]
        split <;> grind
  obtain ⟨nodup, mem⟩ := go (t.filter fun e => Name.sanitize e.1.name = name) [] List.nodup_nil
  refine ⟨nodup, fun labels => ?_⟩
  rw [seriesOf, mem]
  simp [and_assoc]

theorem eraseDups_of_nodup {names : List String} (apart : names.Nodup) :
    names.eraseDups = names := by
  induction names with
  | nil => rfl
  | cons first rest ih =>
      obtain ⟨new, apart⟩ := List.nodup_cons.mp apart
      have kept : rest.filter (fun n => !n == first) = rest := by
        rw [List.filter_eq_self]
        intro n member
        have other : n ≠ first := fun same => new (same ▸ member)
        simp [other]
      rw [List.eraseDups_cons, kept, ih apart]

/-- An item of a list is selected by what tells it apart. -/
theorem filter_of_nodup_map {ι : Type} {tells : ι → String} {items : List ι}
    (apart : (items.map tells).Nodup) {i : ι} (member : i ∈ items) :
    items.filter (fun j => tells j = tells i) = [i] := by
  induction items with
  | nil => cases member
  | cons j rest ih =>
      obtain ⟨new, apart⟩ := List.nodup_cons.mp apart
      rcases List.mem_cons.mp member with rfl | member
      · have none : rest.filter (fun j => tells j = tells i) = [] := by
          rw [List.filter_eq_nil_iff]
          intro j inside same
          exact new (List.mem_map.mpr ⟨j, inside, by simpa using same⟩)
        rw [List.filter_cons_of_pos (by simp), none]
      · have other : tells j ≠ tells i :=
          fun same => new (List.mem_map.mpr ⟨i, member, same.symm⟩)
        rw [List.filter_cons_of_neg (by simpa using other), ih apart member]

/-- A table whose names all differ shows each of its series as a family. -/
theorem samples_families_of_nodup {r : Registry} {kind : Kind}
    {lines : String → List String → α → List Sample} {t : Table α}
    (apart : (t.map fun e => Name.sanitize e.1.name).Nodup) :
    samples (families r kind both lines t) =
      t.flatMap fun e => lines (Name.sanitize e.1.name) (Label.writeAll e.1.labels) e.2 := by
  rw [families_eq, eraseDups_of_nodup apart, samples, List.map_map, List.flatMap_map]
  refine List.flatMap_congr fun e member => ?_
  have alone := filter_of_nodup_map apart member
  have shown : seriesOf both (Name.sanitize e.1.name) t = [(Label.writeAll e.1.labels, e.2)] := by
    rw [seriesOf, alone]
    rfl
  simp [shown]

end Page

/-! ## Labels that a reader gets back -/

namespace Label

/-- Whether a text is a label key. -/
def isKey (key : String) : Bool :=
  match key.toList with
  | [] => false
  | c :: rest => isKeyStart c && rest.all isKeyRest

theorem sanitizeKey_of_isKey {key : String} (valid : isKey key = true) : sanitizeKey key = key := by
  rw [isKey] at valid
  rw [sanitizeKey]
  split at valid
  · cases valid
  · next c rest chars =>
      rw [Bool.and_eq_true, List.all_eq_true] at valid
      have same : rest.map (fun d => if isKeyRest d then d else '_') = rest := by
        refine (List.map_congr_left fun d member => ?_).trans (List.map_id rest)
        rw [if_pos (valid.2 d member), id]
      rw [chars, sanitizeKeyChars, if_pos valid.1, same, ← chars, String.ofList_toList]

/-- What a series is given to be read back: its labels have keys that are kept, in an order, and
values without backslashes. -/
structure Ordered (before : String → String → Prop) (labels : List Pair) : Prop where
  keys : ∀ l ∈ labels, isKey l.1 = true
  values : ∀ l ∈ labels, '\\' ∉ l.2.toList
  sorted : labels.Pairwise fun a b => before a.1 b.1

variable {before : String → String → Prop} {labels others : List Pair}

theorem Ordered.writeAll (asymmetric : ∀ a b, before a b → ¬ before b a)
    (ordered : Ordered before labels) : Label.writeAll labels = labels.map write := by
  have distinct : (labels.map Prod.fst).Nodup := by
    rw [List.Nodup, List.pairwise_map]
    refine ordered.sorted.imp fun {a b} first same => ?_
    exact asymmetric _ _ first (same ▸ first)
  rw [Label.writeAll, distinct_of_nodup distinct]

theorem Ordered.asRead (ordered : Ordered before labels) : labels.map Label.asRead = labels := by
  refine (List.map_congr_left fun l member => ?_).trans (List.map_id labels)
  exact asRead_of_no_backslash (sanitizeKey_of_isKey (ordered.keys l member))
    (ordered.values l member)

/-- In a fixed order, labels are told by their set. -/
theorem Ordered.ext (asymmetric : ∀ a b, before a b → ¬ before b a)
    (first : Ordered before labels) (second : Ordered before others)
    (same : ∀ l, l ∈ labels ↔ l ∈ others) : labels = others := by
  have nodup : ∀ {labels : List Pair}, Ordered before labels → labels.Nodup := by
    intro labels ordered
    refine ordered.sorted.imp fun {a b} first same => ?_
    exact asymmetric _ _ first (same ▸ first)
  have perm := (List.perm_ext_iff_of_nodup (nodup first) (nodup second)).mpr same
  exact perm.eq_of_pairwise (fun a b _ _ ab ba => absurd ba (asymmetric _ _ ab))
    first.sorted second.sorted

theorem escape_of_plain {place : Place} {s : String}
    (plain : ∀ c ∈ s.toList, c ≠ '\n' ∧ c ≠ '"' ∧ c ≠ '\\') : escape place s = s := by
  have go : ∀ cs : List Char, (∀ c ∈ cs, c ≠ '\n' ∧ c ≠ '"' ∧ c ≠ '\\') →
      escapeFrom place false cs = cs := by
    intro cs plain
    induction cs with
    | nil => rfl
    | cons c rest ih =>
        obtain ⟨feed, quote, slash⟩ := plain c List.mem_cons_self
        have tail := ih fun d member => plain d (List.mem_cons_of_mem c member)
        simp [escapeFrom, feed, quote, slash, flushed, tail]
  rw [escape, go _ plain, String.ofList_toList]

end Label

end TrafficMeter.Metric
