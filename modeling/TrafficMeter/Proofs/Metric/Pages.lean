import Mathlib.Data.List.Basic
import TrafficMeter.Proofs.Metric.Readback
import TrafficMeter.Text.Split

/-!
# Sample lines of a page

The text of a page can be cut into its lines again, because nothing that is written on a line holds
a line feed. A family shows a line for each series, but series with the same written labels share
one.

Main statements: `linesOf_text`, which lines of a page are those of a name, and `samples_families`,
which series they show.
-/

namespace TrafficMeter

namespace Metric

/-! ## Text without line feeds -/

/-- A text without line feeds. -/
def Flat (s : String) : Prop := '\n' ∉ s.toList

theorem flat_append {s t : String} (first : Flat s) (second : Flat t) : Flat (s ++ t) := by
  simp only [Flat, String.toList_append, List.mem_append, not_or]
  exact ⟨first, second⟩

theorem flat_intercalate {parts : List String} (all : ∀ part ∈ parts, Flat part) :
    Flat (",".intercalate parts) := by
  induction parts with
  | nil => simp [Flat]
  | cons part rest ih =>
      have own := all part List.mem_cons_self
      by_cases last : rest = []
      · rw [last, String.intercalate_singleton]
        exact own
      · rw [String.intercalate_cons_of_ne_nil last]
        exact flat_append (flat_append own (by simp [Flat]))
          (ih fun p hp => all p (List.mem_cons_of_mem part hp))

theorem isRest_of_mem_sanitize {name : String} {c : Char}
    (member : c ∈ (Name.sanitize name).toList) : Name.isRest c = true := by
  have kept : ∀ {ok : Char → Bool} {d : Char}, (ok d = true → Name.isRest d = true) →
      Name.isRest (Name.mend ok d) = true := by
    intro ok d within
    rw [Name.mend]
    split
    · next good => exact within good
    · decide
  rw [Name.sanitize, String.toList_ofList] at member
  cases chars : name.toList with
  | nil => simp [chars, Name.sanitizeChars] at member
  | cons first rest =>
      rw [chars, Name.sanitizeChars, List.mem_cons] at member
      rcases member with rfl | member
      · refine kept fun start => ?_
        simp only [Name.isStart, Name.isRest, Char.isAlphanum, Bool.or_eq_true] at start ⊢
        exact start.imp_left (.imp_left .inl)
      · obtain ⟨d, -, rfl⟩ := List.mem_map.mp member
        exact kept id

theorem flat_of_isRest {name : String} (plain : ∀ c ∈ name.toList, Name.isRest c = true) :
    Flat name :=
  fun member => absurd (plain _ member) (by decide)

theorem flat_escape (place : Label.Place) (s : String) : Flat (Label.escape place s) := by
  have go : ∀ (cs : List Char) (waits : Bool), '\n' ∉ Label.escapeFrom place waits cs := by
    intro cs
    induction cs with
    | nil => intro waits; cases waits <;> simp [Label.escapeFrom, Label.flushed]
    | cons c rest ih =>
        intro waits
        rw [Label.escapeFrom]
        have flushed : '\n' ∉ Label.flushed waits := by cases waits <;> simp [Label.flushed]
        split
        · simp [ih]
        · split
          · simp [ih]
          · next other _ =>
              split
              · simp [flushed, ih]
              · simp [flushed, ih, Ne.symm other]
  rw [Flat, Label.escape, String.toList_ofList]
  exact go _ _

theorem flat_write (label : Label.Pair) : Flat (Label.write label) := by
  have key : Flat (Label.sanitizeKey label.1) := by
    intro member
    exact absurd (Label.isKeyRest_of_mem_sanitizeKey member) (by decide)
  have quote : Flat "\"" := by simp [Flat]
  have mark : Flat "=\"" := by simp [Flat]
  exact flat_append (flat_append (flat_append key mark) (flat_escape _ _)) quote

/-- A character of a number as it is written. -/
def isNumeralChar (c : Char) : Bool := c.isAlphanum || c == '.' || c == '-'

theorem isNumeralChar_of_mem_digitsOf {n : Nat} {c : Char} (member : c ∈ Decimal.digitsOf n) :
    isNumeralChar c = true := by
  have digit := Nat.isDigit_of_mem_toDigits (by decide) (by decide) member
  simp [isNumeralChar, Char.isAlphanum, digit]

theorem isNumeralChar_of_mem_pointed {d : Decimal.Scaled} {c : Char}
    (member : c ∈ Decimal.pointed [] d) : isNumeralChar c = true := by
  have digits : ∀ c ∈ Decimal.digitsOf d.digits, isNumeralChar c = true :=
    fun c inside => isNumeralChar_of_mem_digitsOf inside
  have zeros : ∀ n, ∀ c ∈ List.replicate n '0', isNumeralChar c = true := by
    intro n c inside
    rw [List.eq_of_mem_replicate inside]
    decide
  rw [Decimal.pointed] at member
  simp only at member
  split at member
  · rw [List.append_nil] at member
    exact (List.mem_append.mp member).elim (digits c) (zeros _ c)
  · split at member
    · rcases List.mem_append.mp member with before | after
      · exact digits c (List.mem_of_mem_take before)
      · rcases List.mem_cons.mp after with rfl | after
        · decide
        · exact digits c (List.mem_of_mem_drop after)
    · rcases List.mem_cons.mp member with rfl | member
      · decide
      · rcases List.mem_cons.mp member with rfl | member
        · decide
        · exact (List.mem_append.mp member).elim (zeros _ c) (digits c)

/-- A number is written with letters, digits, points and signs. -/
theorem isNumeralChar_of_mem_plain {x : Decimal.Binary} {c : Char} (member : c ∈ x.plain.toList) :
    isNumeralChar c = true := by
  have sign : ∀ negative, ∀ c ∈ Decimal.sign negative, isNumeralChar c = true := by
    intro negative c inside
    cases negative
    · cases inside
    · rw [List.mem_singleton.mp inside]
      decide
  cases x with
  | nan => exact List.all_eq_true.mp (show "NaN".toList.all isNumeralChar by decide) c member
  | infinite negative =>
      rw [Decimal.Binary.plain, String.toList_ofList] at member
      rcases List.mem_append.mp member with negated | word
      · exact sign negative c negated
      · exact List.all_eq_true.mp (show "inf".toList.all isNumeralChar by decide) c word
  | finite negative s p =>
      rw [Decimal.Binary.plain, String.toList_ofList] at member
      rcases List.mem_append.mp member with negated | digits
      · exact sign negative c negated
      · exact isNumeralChar_of_mem_pointed digits

theorem flat_line {s : Sample} (name : Flat s.name) (labels : ∀ l ∈ s.labels, Flat l)
    (value : Flat s.value) : Flat s.line := by
  have space : Flat " " := by simp [Flat]
  have braces : Flat "\x7b" ∧ Flat "\x7d" := by simp [Flat]
  have inside : Flat (if s.labels.isEmpty then ""
      else "\x7b" ++ ",".intercalate s.labels ++ "\x7d") := by
    split
    · simp [Flat]
    · exact flat_append (flat_append braces.1 (flat_intercalate labels)) braces.2
  exact flat_append (flat_append (flat_append name inside) space) value

/-- A family whose lines can be told apart again. -/
structure Family.Clean (f : Family) : Prop where
  flat : ∀ line ∈ f.lines, Flat line
  named : ∀ s ∈ f.series.flatten, ∀ c ∈ s.name.toList, Name.isRest c = true

namespace Page

/-- The sample lines of a page. -/
def samples (p : Page) : List Sample := p.flatMap (·.series.flatten)

theorem samples_append (p q : Page) : samples (p ++ q) = samples p ++ samples q :=
  List.flatMap_append

/-- The sample lines of a name in the text of a page. -/
def linesOf (name : String) (text : String) : List String :=
  ((Text.split '\n' text.toList).map String.ofList).filter (Line.nameOf · = name)

theorem split_lines {lines : List String} (flat : ∀ line ∈ lines, Flat line) :
    (Text.split '\n' (String.join (lines.map (· ++ "\n"))).toList).map String.ofList =
      lines ++ [""] := by
  induction lines with
  | nil => rfl
  | cons line rest ih =>
      have others := ih fun l hl => flat l (List.mem_cons_of_mem line hl)
      have own := flat line List.mem_cons_self
      have text : (String.join ((line :: rest).map (· ++ "\n"))).toList =
          line.toList ++ '\n' :: (String.join (rest.map (· ++ "\n"))).toList := by
        simp
      rw [text, Text.split_append_cons, Text.split_of_not_mem own, List.singleton_append,
        List.map_cons, others, String.ofList_toList]
      rfl

/-- The lines of a page, an empty one after each family. -/
def lines (p : Page) : List String := p.flatMap fun f => f.lines ++ [""]

theorem text_eq_join (p : Page) : p.text = String.join (p.lines.map (· ++ "\n")) := by
  induction p with
  | nil => rfl
  | cons f rest ih =>
      have first : ∀ q : Page, q.lines = q.flatMap fun f => f.lines ++ [""] := fun _ => rfl
      rw [first, List.flatMap_cons, ← first, List.map_append, String.join_append, ← ih]
      simp [text]

theorem nameOf_comment {line : String} (comment : line.toList.head? = some '#') :
    Line.nameOf line = "" := by
  have mark : Name.isRest '#' = false := by decide
  obtain ⟨rest, chars⟩ := List.head?_eq_some_iff.mp comment
  simp [Line.nameOf, chars, mark]

/-- The comments of a family have no name. -/
theorem filter_lines {f : Family} (clean : f.Clean) {name : String} (some : name ≠ "") :
    (f.lines ++ [""]).filter (Line.nameOf · = name) =
      (f.series.flatten.filter (·.name = name)).map Sample.line := by
  have empty : Line.nameOf "" ≠ name := fun same => some same.symm
  have help : f.helpLines.filter (Line.nameOf · = name) = [] := by
    rw [List.filter_eq_nil_iff]
    intro line member
    rw [Family.helpLines] at member
    cases given : f.help with
    | none => simp [given] at member
    | some text =>
        rw [given, List.mem_singleton] at member
        have comment : Line.nameOf line = "" := nameOf_comment (by simp [member])
        simpa [comment] using some.symm
  have kind : Line.nameOf f.typeLine ≠ name := by
    rw [nameOf_comment (by simp [Family.typeLine])]
    exact some.symm
  have samples : (f.series.flatten.map Sample.line).filter (Line.nameOf · = name) =
      (f.series.flatten.filter (·.name = name)).map Sample.line := by
    rw [List.filter_map]
    congr 1
    apply List.filter_congr
    intro s member
    simp [Line.nameOf_line (clean.named s member)]
  rw [Family.lines, List.filter_append, List.filter_append, help, List.nil_append,
    List.filter_cons_of_neg (by simpa using kind), samples,
    List.filter_cons_of_neg (by simpa using empty), List.filter_nil, List.append_nil]

/-- The lines of the text of a page. -/
theorem split_text {p : Page} (clean : ∀ f ∈ p, f.Clean) :
    (Text.split '\n' p.text.toList).map String.ofList = p.lines ++ [""] := by
  have flat : ∀ line ∈ p.lines, Flat line := by
    intro line member
    obtain ⟨f, inside, own⟩ := List.mem_flatMap.mp member
    rcases List.mem_append.mp own with own | empty
    · exact (clean f inside).flat line own
    · rw [List.mem_singleton.mp empty]
      simp [Flat]
  rw [text_eq_join, split_lines flat]

/-- Which lines of a page are those of a name. -/
theorem linesOf_text {p : Page} (clean : ∀ f ∈ p, f.Clean) {name : String} (some : name ≠ "") :
    linesOf name p.text = (p.samples.filter (·.name = name)).map Sample.line := by
  have empty : Line.nameOf "" ≠ name := fun same => some same.symm
  have last : [""].filter (Line.nameOf · = name) = [] := by simp [empty]
  rw [linesOf, split_text clean, List.filter_append, last, List.append_nil, lines,
    samples, List.filter_flatMap, List.filter_flatMap, List.map_flatMap]
  exact List.flatMap_congr fun f inside => filter_lines (clean f inside) some

/-! ## Series that a page shows -/

variable {α : Type} {both : α → α → α}

/-- The series of a name as a page shows them. -/
def seriesOf (both : α → α → α) (name : String) (t : Table α) : List (List String × α) :=
  (t.filter fun e => Name.sanitize e.1.name = name).foldl
    (fun acc e => join both (Label.writeAll e.1.labels) e.2 acc) []

theorem grouped_eq (both : α → α → α) (t : Table α) :
    grouped both t = ((t.map fun e => Name.sanitize e.1.name).eraseDups).map fun name =>
      (name, seriesOf both name t) := by
  have names : (t.map fun e => (Name.sanitize e.1.name, Label.writeAll e.1.labels, e.2)).map
      (·.1) = t.map fun e => Name.sanitize e.1.name := by
    rw [List.map_map]
    rfl
  have series : ∀ name, ((t.map fun e =>
        (Name.sanitize e.1.name, Label.writeAll e.1.labels, e.2)).filter (·.1 == name)).foldl
          (fun acc e => join both e.2.1 e.2.2 acc) [] = seriesOf both name t := by
    intro name
    rw [List.filter_map, List.foldl_map, seriesOf]
    congr 1
  simp only [grouped]
  rw [names]
  exact List.map_congr_left fun name _ => congrArg _ (series name)

theorem mem_join {labels shown : List String} {v u : α} {acc : List (List String × α)}
    (member : (shown, u) ∈ join both labels v acc) :
    (shown, u) ∈ acc ∨ shown = labels ∧ (u = v ∨ ∃ w, (shown, w) ∈ acc ∧ u = both w v) := by
  induction acc with
  | nil =>
      rw [join, List.mem_singleton, Prod.mk.injEq] at member
      exact .inr ⟨member.1, .inl member.2⟩
  | cons e rest ih =>
      obtain ⟨other, w⟩ := e
      rw [join] at member
      split at member
      · next same =>
          rcases List.mem_cons.mp member with joined | old
          · cases joined
            exact .inr ⟨same, .inr ⟨w, List.mem_cons_self, rfl⟩⟩
          · exact .inl (List.mem_cons_of_mem _ old)
      · rcases List.mem_cons.mp member with first | deeper
        · exact .inl (first ▸ List.mem_cons_self)
        · rcases ih deeper with old | ⟨same, new | ⟨x, inside, joined⟩⟩
          · exact .inl (List.mem_cons_of_mem _ old)
          · exact .inr ⟨same, .inl new⟩
          · exact .inr ⟨same, .inr ⟨x, List.mem_cons_of_mem _ inside, joined⟩⟩

/-- What holds of each series and is kept when series are joined holds of all that are shown. -/
theorem mem_seriesOf {p : List String → α → Prop} {name : String} {t : Table α}
    (each : ∀ e ∈ t, Name.sanitize e.1.name = name → p (Label.writeAll e.1.labels) e.2)
    (joined : ∀ labels u v, p labels u → p labels v → p labels (both u v)) :
    ∀ shown ∈ seriesOf both name t, p shown.1 shown.2 := by
  have go : ∀ (entries : Table α) (acc : List (List String × α)),
      (∀ e ∈ entries, p (Label.writeAll e.1.labels) e.2) →
      (∀ shown ∈ acc, p shown.1 shown.2) →
      ∀ shown ∈ entries.foldl (fun acc e => join both (Label.writeAll e.1.labels) e.2 acc) acc,
        p shown.1 shown.2 := by
    intro entries
    induction entries with
    | nil => exact fun acc _ done => done
    | cons e rest ih =>
        intro acc more done
        refine ih _ (fun d hd => more d (List.mem_cons_of_mem e hd)) ?_
        rintro ⟨labels, u⟩ member
        have own := more e List.mem_cons_self
        rcases mem_join member with old | ⟨rfl, rfl | ⟨w, old, rfl⟩⟩
        · exact done _ old
        · exact own
        · exact joined _ _ _ (done _ old) own
  refine go _ [] ?_ (by simp)
  intro e member
  obtain ⟨inside, named⟩ := List.mem_filter.mp member
  exact each e inside (by simpa using named)

theorem join_of_not_mem {labels : List String} {v : α} {acc : List (List String × α)}
    (new : labels ∉ acc.map Prod.fst) : join both labels v acc = acc ++ [(labels, v)] := by
  induction acc with
  | nil => rfl
  | cons e rest ih =>
      simp only [List.map_cons, List.mem_cons, not_or] at new
      rw [join, if_neg (Ne.symm new.1), ih new.2]
      rfl

/-- Series whose written labels differ are all shown. -/
theorem seriesOf_of_nodup {name : String} {t : Table α}
    (apart : ((t.filter fun e => Name.sanitize e.1.name = name).map fun e =>
      Label.writeAll e.1.labels).Nodup) :
    seriesOf both name t = (t.filter fun e => Name.sanitize e.1.name = name).map fun e =>
      (Label.writeAll e.1.labels, e.2) := by
  have go : ∀ (entries : Table α) (acc : List (List String × α)),
      (acc.map Prod.fst ++ entries.map fun e => Label.writeAll e.1.labels).Nodup →
      entries.foldl (fun acc e => join both (Label.writeAll e.1.labels) e.2 acc) acc =
        acc ++ entries.map fun e => (Label.writeAll e.1.labels, e.2) := by
    intro entries
    induction entries with
    | nil => intro acc _; simp
    | cons e rest ih =>
        intro acc nodup
        have new : Label.writeAll e.1.labels ∉ acc.map Prod.fst := by
          intro old
          exact (List.nodup_append.mp nodup).2.2 _ old _ List.mem_cons_self rfl
        rw [List.foldl_cons, join_of_not_mem new, ih]
        · simp
        · simpa using nodup
  exact go _ [] (by simpa using apart)

/-- Among names without repetitions there is one place for each. -/
theorem flatMap_eraseDups {β : Type} (names : List String) (name : String) (shown : List β) :
    names.eraseDups.flatMap (fun n => if n = name then shown else []) =
      if name ∈ names then shown else [] := by
  induction count : names.length using Nat.strongRecOn generalizing names with
  | ind size ih =>
      cases names with
      | nil => rfl
      | cons first rest =>
          have shorter : (rest.filter fun n => !n == first).length < size := by
            rw [← count]
            exact Nat.lt_succ_of_le (List.length_filter_le _ _)
          rw [List.eraseDups_cons, List.flatMap_cons, ih _ shorter _ rfl]
          by_cases same : first = name
          · subst same
            simp
          · simp [same, Ne.symm same]

/-- What a table is shown as: a family for each name of its entries. -/
theorem families_eq (r : Registry) (kind : Kind) (both : α → α → α)
    (lines : String → List String → α → List Sample) (t : Table α) :
    families r kind both lines t = ((t.map fun e => Name.sanitize e.1.name).eraseDups).map
      fun name => { kind, name, help := r.helps.lookup name
                    series := (seriesOf both name t).map fun e => lines name e.1 e.2 } := by
  rw [families, grouped_eq, List.map_map]
  rfl

/-- Lines of one name are selected all or not at all. -/
theorem filter_of_forall_named {shown : List Sample} {n : String} (all : ∀ s ∈ shown, s.name = n)
    (name : String) : shown.filter (·.name = name) = if n = name then shown else [] := by
  split
  · next same =>
      rw [List.filter_eq_self]
      intro s member
      rw [all s member]
      simpa using same
  · next other =>
      rw [List.filter_eq_nil_iff]
      intro s member
      rw [all s member]
      simpa using other

/-- The lines of a name come from the series of that name, if a series is shown on lines of its own
name only. -/
theorem samples_families {r : Registry} {kind : Kind}
    {lines : String → List String → α → List Sample} {t : Table α}
    (named : ∀ name labels v, ∀ s ∈ lines name labels v, s.name = name) (name : String) :
    (samples (families r kind both lines t)).filter (·.name = name) =
      (seriesOf both name t).flatMap fun e => lines name e.1 e.2 := by
  have own : ∀ n, (((seriesOf both n t).map fun e => lines n e.1 e.2).flatten).filter
      (·.name = name) =
        if n = name then (seriesOf both name t).flatMap (fun e => lines name e.1 e.2) else [] := by
    intro n
    rw [← List.flatMap_def, filter_of_forall_named (n := n)]
    · split
      · next same => rw [same]
      · rfl
    · intro s member
      obtain ⟨e, -, line⟩ := List.mem_flatMap.mp member
      exact named n e.1 e.2 s line
  rw [samples, families_eq, List.flatMap_map, List.filter_flatMap]
  simp only [own, flatMap_eraseDups]
  split
  · rfl
  · next absent =>
      have none : (t.filter fun e => Name.sanitize e.1.name = name) = [] := by
        rw [List.filter_eq_nil_iff]
        intro e member same
        exact absent (List.mem_map.mpr ⟨e, member, by simpa using same⟩)
      rw [seriesOf, none]
      rfl

theorem mem_families {r : Registry} {kind : Kind}
    {lines : String → List String → α → List Sample} {t : Table α} {f : Family}
    (member : f ∈ families r kind both lines t) :
    ∃ e ∈ t, f.name = Name.sanitize e.1.name ∧
      f.series = (seriesOf both f.name t).map fun shown => lines f.name shown.1 shown.2 := by
  rw [families_eq] at member
  obtain ⟨name, inside, rfl⟩ := List.mem_map.mp member
  obtain ⟨e, entry, same⟩ := List.mem_map.mp (List.mem_eraseDups.mp inside)
  exact ⟨e, entry, same.symm, rfl⟩

/-- Where a line of a page comes from. -/
theorem mem_samples_families {r : Registry} {kind : Kind}
    {lines : String → List String → α → List Sample} {t : Table α} {s : Sample}
    (member : s ∈ samples (families r kind both lines t)) :
    ∃ e ∈ t, ∃ shown ∈ seriesOf both (Name.sanitize e.1.name) t,
      s ∈ lines (Name.sanitize e.1.name) shown.1 shown.2 := by
  obtain ⟨f, family, inside⟩ := List.mem_flatMap.mp member
  obtain ⟨e, entry, name, series⟩ := mem_families family
  rw [series, name, ← List.flatMap_def] at inside
  exact ⟨e, entry, List.mem_flatMap.mp inside⟩

/-! ## Pages of registries -/

/-- A sample whose line can be read: its name is a name, and nothing on the line is a line feed. -/
structure Legible (s : Sample) : Prop where
  named : ∀ c ∈ s.name.toList, Name.isRest c = true
  labels : ∀ l ∈ s.labels, Flat l
  value : Flat s.value

theorem Legible.flat_line {s : Sample} (h : Legible s) : Flat s.line :=
  Metric.flat_line (flat_of_isRest h.named) h.labels h.value

theorem clean_of_legible {f : Family} (named : ∀ c ∈ f.name.toList, Name.isRest c = true)
    (legible : ∀ s ∈ f.series.flatten, Legible s) : f.Clean := by
  have name := flat_of_isRest named
  have marks : Flat "# HELP " ∧ Flat " " ∧ Flat "# TYPE " := by simp [Flat]
  refine ⟨?_, fun s member => (legible s member).named⟩
  intro line member
  rcases List.mem_append.mp member with comment | member
  · rw [Family.helpLines] at comment
    split at comment
    · rw [List.mem_singleton.mp comment]
      exact flat_append (flat_append (flat_append marks.1 name) marks.2.1) (flat_escape _ _)
    · cases comment
  · rcases List.mem_cons.mp member with rfl | member
    · refine flat_append (flat_append (flat_append marks.2.2 name) marks.2.1) ?_
      cases f.kind <;> simp [Flat, Kind.word]
    · obtain ⟨s, shown, rfl⟩ := List.mem_map.mp member
      exact (legible s shown).flat_line

theorem clean_families {r : Registry} {kind : Kind}
    {lines : String → List String → α → List Sample} {t : Table α}
    (legible : ∀ name labels v, (∀ c ∈ name.toList, Name.isRest c = true) →
      (∀ l ∈ labels, Flat l) → ∀ s ∈ lines name labels v, Legible s) :
    ∀ f ∈ families r kind both lines t, f.Clean := by
  intro f member
  obtain ⟨e, -, name, series⟩ := mem_families member
  have plain : ∀ c ∈ f.name.toList, Name.isRest c = true := by
    rw [name]
    exact fun c hc => isRest_of_mem_sanitize hc
  have written : ∀ shown ∈ seriesOf both f.name t, ∀ l ∈ shown.1, Flat l := by
    refine mem_seriesOf (p := fun labels _ => ∀ l ∈ labels, Flat l) ?_ fun _ _ _ flat _ => flat
    intro d _ _ l hl
    obtain ⟨label, -, rfl⟩ := List.mem_map.mp hl
    exact flat_write label
  refine clean_of_legible plain fun s hs => ?_
  rw [series, ← List.flatMap_def] at hs
  obtain ⟨shown, inside, line⟩ := List.mem_flatMap.mp hs
  exact legible _ _ _ plain (written shown inside) s line

theorem flat_natural (n : Nat) : Flat (Decimal.natural n) := by
  rw [Flat, Decimal.natural, String.toList_ofList]
  exact fun feed => absurd (isNumeralChar_of_mem_digitsOf feed) (by decide)

theorem flat_plainFloat (x : Float) : Flat (Decimal.plainFloat x) :=
  fun feed => absurd (isNumeralChar_of_mem_plain feed) (by decide)

theorem legible_valueLine {text name : String} {labels : List String} (value : Flat text)
    (plain : ∀ c ∈ name.toList, Name.isRest c = true) (flat : ∀ l ∈ labels, Flat l) :
    ∀ s ∈ valueLine text name labels, Legible s := by
  intro s member
  rw [List.mem_singleton.mp member]
  exact ⟨plain, flat, value⟩

theorem legible_summaryLines {quantiles samples : List Float} {name : String}
    {labels : List String} (plain : ∀ c ∈ name.toList, Name.isRest c = true)
    (flat : ∀ l ∈ labels, Flat l) :
    ∀ s ∈ summaryLines quantiles name labels samples, Legible s := by
  have suffix : ∀ last, (∀ c ∈ last.toList, Name.isRest c = true) →
      ∀ c ∈ (name ++ last).toList, Name.isRest c = true := by
    intro last good c hc
    rw [String.toList_append] at hc
    exact (List.mem_append.mp hc).elim (plain c) (good c)
  intro s member
  rcases List.mem_append.mp member with quantile | member
  · obtain ⟨⟨q, v⟩, -, rfl⟩ := List.mem_map.mp quantile
    refine ⟨plain, ?_, flat_plainFloat _⟩
    intro l hl
    rcases List.mem_append.mp hl with own | mark
    · exact flat l own
    · rw [List.mem_singleton.mp mark]
      have quotes : Flat "quantile=\"" ∧ Flat "\"" := by simp [Flat]
      exact flat_append (flat_append quotes.1 (flat_plainFloat _)) quotes.2
  · rcases List.mem_cons.mp member with rfl | member
    · exact ⟨suffix "_sum" (List.all_eq_true.mp (by decide)), flat, flat_plainFloat _⟩
    · rw [List.mem_singleton.mp member]
      exact ⟨suffix "_count" (List.all_eq_true.mp (by decide)), flat, flat_natural _⟩

/-- Every line of a page can be told apart again. -/
theorem clean_ofRegistry (r : Registry) : ∀ f ∈ ofRegistry r, f.Clean := by
  intro f member
  rcases List.mem_append.mp member with member | summary
  · rcases List.mem_append.mp member with counter | gauge
    · refine clean_families ?_ f counter
      intro name labels v
      exact legible_valueLine (flat_natural v.toNat)
    · refine clean_families ?_ f gauge
      intro name labels v
      exact legible_valueLine (flat_plainFloat v)
  · refine clean_families ?_ f summary
    intro name labels v
    exact legible_summaryLines

theorem name_of_mem_summaryLines {quantiles samples : List Float} {name : String}
    {labels : List String} {s : Sample} (member : s ∈ summaryLines quantiles name labels samples) :
    ∃ suffix ∈ ["", "_sum", "_count"], s.name = name ++ suffix := by
  rcases List.mem_append.mp member with quantile | member
  · obtain ⟨⟨q, v⟩, -, rfl⟩ := List.mem_map.mp quantile
    exact ⟨"", by simp, by simp⟩
  · rcases List.mem_cons.mp member with rfl | member
    · exact ⟨"_sum", by simp, rfl⟩
    · rw [List.mem_singleton.mp member]
      exact ⟨"_count", by simp, rfl⟩

/-- The lines of a counter are those of its series, if no gauge and no summary has lines of its
name. -/
theorem samples_counter {r : Registry} {name : String}
    (gauges : ∀ e ∈ r.gauges, Name.sanitize e.1.name ≠ name)
    (summaries : ∀ e ∈ r.summaries, ∀ suffix ∈ ["", "_sum", "_count"],
      Name.sanitize e.1.name ++ suffix ≠ name) :
    (samples (ofRegistry r)).filter (·.name = name) =
      (seriesOf (fun _ v => v) name r.counters).map fun e =>
        { role := .value, name, labels := e.1, value := Decimal.natural e.2.toNat } := by
  have noGauge : (samples (families r .gauge (fun _ v => v) (fun name labels v =>
      valueLine (Decimal.plainFloat v) name labels) r.gauges)).filter (·.name = name) = [] := by
    rw [List.filter_eq_nil_iff]
    intro s member
    obtain ⟨e, inside, shown, -, line⟩ := mem_samples_families member
    rw [List.mem_singleton.mp line]
    simpa using gauges e inside
  have noSummary : (samples (families r .summary (· ++ ·) (summaryLines r.quantiles)
      (r.summaries.map fun e => (e.1, e.2.toList)))).filter
        (·.name = name) = [] := by
    rw [List.filter_eq_nil_iff]
    intro s member
    obtain ⟨e, inside, shown, -, line⟩ := mem_samples_families member
    obtain ⟨own, summary, rfl⟩ := List.mem_map.mp inside
    obtain ⟨suffix, known, named⟩ := name_of_mem_summaryLines line
    rw [named]
    simpa using summaries own summary suffix known
  rw [ofRegistry, samples_append, samples_append, List.filter_append, List.filter_append, noGauge,
    noSummary, List.append_nil, List.append_nil, samples_families, List.map_eq_flatMap]
  · rfl
  · intro n labels v s line
    rw [List.mem_singleton.mp line]

end Page

end Metric

end TrafficMeter
