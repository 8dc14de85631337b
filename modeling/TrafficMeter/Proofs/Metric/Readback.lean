import TrafficMeter.Metric.Page

/-!
# Sample lines that are read back

A reader of the page takes a sample line apart into its name, its labels and its value, and undoes
the escapes of label values. The writer loses a backslash that stands before another one or before
a double quote, so these are what a value must not hold to be read back.

Main statements: `readValue_escapeFrom`, what is read of an escaped value, `collapse_eq_iff`, which
values are kept, and `read?_line`, what is read of a sample line.
-/

namespace TrafficMeter.Metric

namespace Label

/-- Reads a value from after its opening quote up to the closing one, and undoes the escapes. -/
def readValue : List Char → Option (List Char × List Char)
  | [] => none
  | '"' :: rest => some ([], rest)
  | '\\' :: 'n' :: rest => (readValue rest).map fun (value, after) => ('\n' :: value, after)
  | '\\' :: '"' :: rest => (readValue rest).map fun (value, after) => ('"' :: value, after)
  | '\\' :: '\\' :: rest => (readValue rest).map fun (value, after) => ('\\' :: value, after)
  | c :: rest =>
      if c = '\\' then none else (readValue rest).map fun (value, after) => (c :: value, after)

/-- A value without the backslashes that the writer loses. -/
def collapse : List Char → List Char
  | '\\' :: '\\' :: rest => '\\' :: collapse rest
  | '\\' :: '"' :: rest => '"' :: collapse rest
  | c :: rest => c :: collapse rest
  | [] => []

/-- No backslash stands before another one or before a double quote. -/
def Unpaired (cs : List Char) : Prop := ¬ ['\\', '\\'] <:+: cs ∧ ¬ ['\\', '"'] <:+: cs

instance : DecidablePred Unpaired := fun _ => inferInstanceAs (Decidable (_ ∧ _))

/-- A backslash that waits is written unless it is the first of a pair. -/
theorem escapeFrom_waiting {cs : List Char} (feed : '\n' ∉ cs) (slash : cs.head? ≠ some '\\')
    (quote : cs.head? ≠ some '"') :
    escapeFrom .labelValue true cs = '\\' :: '\\' :: escapeFrom .labelValue false cs := by
  cases cs with
  | nil => rfl
  | cons c rest =>
      have noFeed : c ≠ '\n' := fun same => feed (same ▸ List.mem_cons_self)
      have noSlash : c ≠ '\\' := fun same => slash (congrArg some same)
      have noQuote : c ≠ '"' := fun same => quote (congrArg some same)
      simp [escapeFrom, flushed, noFeed, noSlash, noQuote]

theorem escapeFrom_backslash (cs : List Char) :
    escapeFrom .labelValue false ('\\' :: cs) = escapeFrom .labelValue true cs := by
  simp [escapeFrom, flushed]

theorem readValue_of_no_feed {cs : List Char} (feed : '\n' ∉ cs) (after : List Char) :
    readValue (escapeFrom .labelValue false cs ++ '"' :: after) = some (collapse cs, after) := by
  fun_induction collapse cs with
  | case1 rest ih =>
      have read := ih fun member => feed (by simp [member])
      simp [escapeFrom, flushed, readValue, read]
  | case2 rest ih =>
      have read := ih fun member => feed (by simp [member])
      simp [escapeFrom, flushed, readValue, read]
  | case3 c rest slash quote ih =>
      have read := ih fun member => feed (by simp [member])
      by_cases waits : c = '\\'
      · subst waits
        have noFeed : '\n' ∉ rest := fun member => feed (List.mem_cons_of_mem _ member)
        have noSlash : rest.head? ≠ some '\\' := by
          intro first
          obtain ⟨more, rfl⟩ := List.head?_eq_some_iff.mp first
          exact slash more rfl rfl
        have noQuote : rest.head? ≠ some '"' := by
          intro first
          obtain ⟨more, rfl⟩ := List.head?_eq_some_iff.mp first
          exact quote more rfl rfl
        rw [escapeFrom_backslash, escapeFrom_waiting noFeed noSlash noQuote]
        simp [readValue, read]
      · have noFeed : c ≠ '\n' := fun same => feed (by simp [same])
        by_cases quoted : c = '"'
        · subst quoted
          simp [escapeFrom, readValue, read]
        · simp [escapeFrom, flushed, waits, noFeed, quoted, readValue, read]
  | case4 => rfl

theorem unpaired_cons_iff {c : Char} {rest : List Char}
    (slash : ∀ more, c = '\\' → rest ≠ '\\' :: more)
    (quote : ∀ more, c = '\\' → rest ≠ '"' :: more) : Unpaired (c :: rest) ↔ Unpaired rest := by
  have first : ∀ second : Char, (∀ more, c = '\\' → rest ≠ second :: more) →
      (['\\', second] <:+: c :: rest ↔ ['\\', second] <:+: rest) := by
    intro second apart
    rw [List.infix_cons_iff, or_iff_right]
    intro start
    obtain ⟨more, same⟩ := start
    cases same
    exact apart more rfl rfl
  rw [Unpaired, Unpaired, first _ slash, first _ quote]

/-- A value is kept if nothing in it is paired, and gets shorter otherwise. -/
theorem collapse_cases (cs : List Char) :
    (collapse cs = cs ∧ Unpaired cs) ∨
      ((collapse cs).length < cs.length ∧ ¬ Unpaired cs) := by
  fun_induction collapse cs with
  | case1 rest ih =>
      refine .inr ⟨?_, fun none => none.1 ⟨[], rest, rfl⟩⟩
      rcases ih with ⟨same, -⟩ | ⟨less, -⟩
      · simp [same]
      · simp only [List.length_cons]
        omega
  | case2 rest ih =>
      refine .inr ⟨?_, fun none => none.2 ⟨[], rest, rfl⟩⟩
      rcases ih with ⟨same, -⟩ | ⟨less, -⟩
      · simp [same]
      · simp only [List.length_cons]
        omega
  | case3 c rest slash quote ih =>
      rw [unpaired_cons_iff slash quote, List.cons.injEq]
      rcases ih with ⟨same, none⟩ | ⟨less, some⟩
      · exact .inl ⟨⟨rfl, same⟩, none⟩
      · exact .inr ⟨Nat.succ_lt_succ less, some⟩
  | case4 => exact .inl ⟨rfl, by decide⟩

/-- Which values are kept. -/
theorem collapse_eq_iff {cs : List Char} : collapse cs = cs ↔ Unpaired cs := by
  rcases collapse_cases cs with ⟨same, none⟩ | ⟨less, some⟩
  · exact iff_of_true same none
  · refine iff_of_false (fun same => ?_) some
    rw [same] at less
    exact Nat.lt_irrefl _ less

theorem length_collapse_lt {cs : List Char} (some : ¬ Unpaired cs) :
    (collapse cs).length < cs.length := by
  rcases collapse_cases cs with ⟨-, none⟩ | ⟨less, -⟩
  · exact absurd none some
  · exact less

/-- A value in which no line feed gets between a backslash and what it stands before. -/
def Unmixed (cs : List Char) : Prop := '\n' ∉ cs ∨ '\\' ∉ cs

theorem collapse_of_no_backslash {cs : List Char} (none : '\\' ∉ cs) : collapse cs = cs := by
  refine collapse_eq_iff.mpr ⟨?_, ?_⟩
  all_goals exact fun pair => none (pair.subset (by simp))

theorem readValue_of_no_backslash {cs : List Char} (none : '\\' ∉ cs) (after : List Char) :
    readValue (escapeFrom .labelValue false cs ++ '"' :: after) = some (cs, after) := by
  induction cs with
  | nil => rfl
  | cons c rest ih =>
      have noSlash : c ≠ '\\' := fun same => none (same ▸ List.mem_cons_self)
      have read := ih fun member => none (List.mem_cons_of_mem _ member)
      by_cases feed : c = '\n'
      · subst feed
        simp [escapeFrom, readValue, read]
      · by_cases quoted : c = '"'
        · subst quoted
          simp [escapeFrom, readValue, read]
        · simp [escapeFrom, flushed, noSlash, feed, quoted, readValue, read]

/-- What is read of an escaped value. -/
theorem readValue_escapeFrom {cs : List Char} (unmixed : Unmixed cs) (after : List Char) :
    readValue (escapeFrom .labelValue false cs ++ '"' :: after) = some (collapse cs, after) := by
  rcases unmixed with feed | none
  · exact readValue_of_no_feed feed after
  · rw [collapse_of_no_backslash none]
    exact readValue_of_no_backslash none after

/-- Reads labels up to the closing brace. Fuel of the number of labels is enough. -/
def readLabels : Nat → List Char → Option (List Pair × List Char)
  | 0, _ => none
  | fuel + 1, cs =>
      match cs.dropWhile isKeyRest with
      | '=' :: '"' :: more =>
          let key := String.ofList (cs.takeWhile isKeyRest)
          match readValue more with
          | some (value, ',' :: rest) =>
              (readLabels fuel rest).map fun (others, after) =>
                ((key, String.ofList value) :: others, after)
          | some (value, '\x7d' :: after) => some ([(key, String.ofList value)], after)
          | _ => none
      | _ => none

/-- A label as it is read of the page. -/
def asRead (label : Pair) : Pair :=
  (sanitizeKey label.1, String.ofList (collapse label.2.toList))

theorem asRead_of_no_backslash {key value : String} (fixed : sanitizeKey key = key)
    (none : '\\' ∉ value.toList) : asRead (key, value) = (key, value) := by
  rw [asRead, fixed, collapse_of_no_backslash none, String.ofList_toList]

theorem isKeyRest_of_mem_sanitizeKey {key : String} {c : Char}
    (member : c ∈ (sanitizeKey key).toList) : isKeyRest c = true := by
  rw [sanitizeKey, String.toList_ofList] at member
  cases chars : key.toList with
  | nil => simp [chars, sanitizeKeyChars] at member
  | cons first rest =>
      rw [chars, sanitizeKeyChars, List.mem_cons] at member
      rcases member with rfl | member
      · split
        · next start =>
            simp only [isKeyStart, isKeyRest, Char.isAlphanum, Bool.or_eq_true] at start ⊢
            exact start.imp_left .inl
        · decide
      · obtain ⟨d, -, rfl⟩ := List.mem_map.mp member
        split
        · next whole => exact whole
        · decide

theorem toList_write (label : Pair) :
    (write label).toList = (sanitizeKey label.1).toList ++
      '=' :: '"' :: (escapeFrom .labelValue false label.2.toList ++ ['"']) := by
  simp [write, escape]

/-- A label is read first, and what comes after it decides how to go on. -/
theorem readLabels_cons {label : Pair} (unmixed : Unmixed label.2.toList) (fuel : Nat)
    (rest : List Char) :
    readLabels (fuel + 1) ((write label).toList ++ ',' :: rest) =
        (readLabels fuel rest).map (fun (others, after) => (asRead label :: others, after)) ∧
      readLabels (fuel + 1) ((write label).toList ++ '\x7d' :: rest) =
        some ([asRead label], rest) := by
  have mark : isKeyRest '=' = false := by decide
  have key : ∀ c ∈ (sanitizeKey label.1).toList, isKeyRest c = true :=
    fun c member => isKeyRest_of_mem_sanitizeKey member
  have text : ∀ after, (write label).toList ++ after = (sanitizeKey label.1).toList ++
      '=' :: '"' :: (escapeFrom .labelValue false label.2.toList ++ '"' :: after) := by
    simp [toList_write]
  constructor
  all_goals
    rw [readLabels, text, List.dropWhile_append_of_pos key, List.takeWhile_append_of_pos key,
      List.dropWhile_cons_of_neg (by simp [mark]), List.takeWhile_cons_of_neg (by simp [mark]),
      List.append_nil, String.ofList_toList]
    simp only [readValue_escapeFrom unmixed]
    rfl

theorem readLabels_write {labels : List Pair} (full : labels ≠ [])
    (unmixed : ∀ label ∈ labels, Unmixed label.2.toList) {fuel : Nat}
    (enough : labels.length ≤ fuel) (after : List Char) :
    readLabels fuel ((",".intercalate (labels.map write)).toList ++ '\x7d' :: after) =
      some (labels.map asRead, after) := by
  induction labels generalizing fuel with
  | nil => exact absurd rfl full
  | cons label rest ih =>
      obtain ⟨fuel, rfl⟩ := Nat.exists_eq_add_one_of_ne_zero
        (show fuel ≠ 0 by
          rintro rfl
          cases enough)
      have own := unmixed label List.mem_cons_self
      by_cases last : rest = []
      · subst last
        rw [List.map_singleton, String.intercalate_singleton, (readLabels_cons own fuel after).2]
        rfl
      · have others := ih last (fun l hl => unmixed l (List.mem_cons_of_mem _ hl))
          (Nat.le_of_succ_le_succ enough)
        have more : rest.map write ≠ [] := fun none => last (List.map_eq_nil_iff.mp none)
        rw [List.map_cons, String.intercalate_cons_of_ne_nil more, String.toList_append,
          String.toList_append, List.append_assoc, List.append_assoc]
        exact (readLabels_cons own fuel _).1.trans (congrArg _ others)

theorem length_le_write (labels : List Pair) :
    labels.length ≤ (",".intercalate (labels.map write)).toList.length := by
  have some : ∀ label : Pair, 0 < (write label).toList.length := by
    intro label
    rw [toList_write, List.length_append, List.length_cons]
    omega
  induction labels with
  | nil => exact Nat.zero_le _
  | cons label rest ih =>
      have own := some label
      by_cases last : rest = []
      · subst last
        rw [List.map_singleton, String.intercalate_singleton]
        exact own
      · have more : rest.map write ≠ [] := fun none => last (List.map_eq_nil_iff.mp none)
        rw [List.map_cons, String.intercalate_cons_of_ne_nil more, String.toList_append,
          String.toList_append, List.length_append, List.length_append, List.length_cons]
        omega

end Label

/-- What a reader gets of a sample line. -/
structure Line where
  name : String
  labels : List Label.Pair
  value : String
deriving DecidableEq, Repr

namespace Line

/-- The name that a line of the page starts with; that of a comment is empty. -/
def nameOf (line : String) : String := String.ofList (line.toList.takeWhile Name.isRest)

/-- Reads a sample line. -/
def read? (line : String) : Option Line :=
  match line.toList.dropWhile Name.isRest with
  | '\x7b' :: rest =>
      match Label.readLabels rest.length rest with
      | some (labels, ' ' :: value) => some ⟨nameOf line, labels, String.ofList value⟩
      | _ => none
  | ' ' :: value => some ⟨nameOf line, [], String.ofList value⟩
  | _ => none

/-- A sample line starts with its name. -/
theorem split_line {s : Sample} (plain : ∀ c ∈ s.name.toList, Name.isRest c = true) :
    s.line.toList.takeWhile Name.isRest = s.name.toList ∧
      s.line.toList.dropWhile Name.isRest =
        (if s.labels = [] then [] else
          '\x7b' :: ((",".intercalate s.labels).toList ++ ['\x7d'])) ++ ' ' :: s.value.toList := by
  have text : s.line.toList = s.name.toList ++
      ((if s.labels = [] then [] else
        '\x7b' :: ((",".intercalate s.labels).toList ++ ['\x7d'])) ++ ' ' :: s.value.toList) := by
    by_cases none : s.labels = []
    · simp [Sample.line, none]
    · simp [Sample.line, none]
  have space : Name.isRest ' ' = false := by decide
  have brace : Name.isRest '\x7b' = false := by decide
  rw [text, List.takeWhile_append_of_pos plain, List.dropWhile_append_of_pos plain]
  by_cases none : s.labels = []
  · simp [none, space]
  · simp [none, brace]

/-- What a line says before its value: the name and the labels. -/
def series (line : String) : String :=
  String.ofList ((line.toList.reverse.dropWhile (· != ' ')).reverse)

/-- A value without blanks does not matter for what stands before it. -/
theorem series_line {s : Sample} (solid : ' ' ∉ s.value.toList) :
    series s.line = ({ s with value := "" } : Sample).line := by
  have text : s.line.toList = ({ s with value := "" } : Sample).line.toList ++ s.value.toList := by
    simp [Sample.line]
  have blank : ∃ before, ({ s with value := "" } : Sample).line.toList = before ++ [' '] := by
    refine ⟨s.name.toList ++ (if s.labels.isEmpty then "" else
      "\x7b" ++ ",".intercalate s.labels ++ "\x7d").toList, ?_⟩
    simp [Sample.line]
  obtain ⟨before, ends⟩ := blank
  have skipped : ∀ c ∈ s.value.toList.reverse, (c != ' ') = true := by
    intro c member
    rw [bne_iff_ne]
    rintro rfl
    exact solid (List.mem_reverse.mp member)
  have kept : (before ++ [' ']).reverse.dropWhile (· != ' ') = (before ++ [' ']).reverse := by simp
  rw [series, text, List.reverse_append, List.dropWhile_append_of_pos skipped, ends, kept,
    List.reverse_reverse, ← ends, String.ofList_toList]

theorem nameOf_line {s : Sample} (plain : ∀ c ∈ s.name.toList, Name.isRest c = true) :
    nameOf s.line = s.name := by
  rw [nameOf, (split_line plain).1, String.ofList_toList]

/-- What is read of a sample line: its name and value, and its labels without the backslashes that
the writer loses. -/
theorem read?_line {s : Sample} (plain : ∀ c ∈ s.name.toList, Name.isRest c = true)
    {labels : List Label.Pair} (written : s.labels = labels.map Label.write)
    (unmixed : ∀ label ∈ labels, Label.Unmixed label.2.toList) :
    read? s.line = some ⟨s.name, labels.map Label.asRead, s.value⟩ := by
  have tail := (split_line plain).2
  by_cases none : labels = []
  · have empty : s.labels = [] := by simp [written, none]
    rw [if_pos empty, List.nil_append] at tail
    simp [read?, tail, nameOf_line plain, none]
  · have full : s.labels ≠ [] := by simpa [written] using none
    rw [if_neg full, List.cons_append, List.append_assoc, List.singleton_append, written] at tail
    have enough := Label.length_le_write labels
    have all := Label.readLabels_write none unmixed
      (Nat.le_trans enough (Nat.le_add_right _ (s.value.toList.length + 2)))
      (' ' :: s.value.toList)
    simp only [read?, tail, nameOf_line plain, List.length_append, List.length_cons]
    rw [all]
    simp

end Line

end TrafficMeter.Metric
