import TrafficMeter.Assoc

/-!
# Labels

A series is told apart by its name and its labels.  On the page a label is a key, mended like a
metric name but without colons, and a value between double quotes.

The writer of values and help texts is an automaton with one bit of memory: a backslash waits
until the next character shows whether it is the first of a pair.  `unescape` reads the three
escapes of the format back.

Main statement: `unescape_escape_of_no_backslash`, that a text without backslashes reads back.
-/

namespace TrafficMeter.Metric.Label

/-- A label as it is given: its key and its value. -/
abbrev Pair := String × String

/-- What may start a label key. -/
def isKeyStart (c : Char) : Bool := c.isAlpha || c == '_'

/-- What may follow the start of a label key. -/
def isKeyRest (c : Char) : Bool := c.isAlphanum || c == '_'

/-- The characters of a key as the page shows them. -/
def sanitizeKeyChars : List Char → List Char
  | [] => []
  | c :: rest =>
      (if isKeyStart c then c else '_') :: rest.map fun d => if isKeyRest d then d else '_'

/-- A key as the page shows it. -/
def sanitizeKey (key : String) : String := String.ofList (sanitizeKeyChars key.toList)

/-- The two places of escaped text. -/
inductive Place where
  | labelValue
  | help
deriving DecidableEq, Repr

/-- A backslash that waited is written as a pair. -/
def flushed (pending : Bool) : List Char := if pending then ['\\', '\\'] else []

/-- Escapes the rest of a text; `pending` says whether a backslash waits.  A line feed is written
at once, so a waiting backslash comes after it. -/
def escapeFrom (place : Place) (pending : Bool) : List Char → List Char
  | [] => flushed pending
  | c :: rest =>
      if c = '\n' then '\\' :: 'n' :: escapeFrom place pending rest
      else if c = '"' ∧ place = .labelValue then '\\' :: '"' :: escapeFrom place false rest
      else if c = '\\' then flushed pending ++ escapeFrom place (!pending) rest
      else flushed pending ++ c :: escapeFrom place false rest

/-- Escapes a text. -/
def escape (place : Place) (s : String) : String :=
  String.ofList (escapeFrom place false s.toList)

/-- Reads the escapes of the format back: a line feed, a double quote and a backslash. -/
def unescape : List Char → Option (List Char)
  | [] => some []
  | '\\' :: 'n' :: rest => (unescape rest).map ('\n' :: ·)
  | '\\' :: '"' :: rest => (unescape rest).map ('"' :: ·)
  | '\\' :: '\\' :: rest => (unescape rest).map ('\\' :: ·)
  | c :: rest => if c = '\\' ∨ c = '"' then none else (unescape rest).map (c :: ·)

/-- A label as the page shows it. -/
def write (label : Pair) : String :=
  sanitizeKey label.1 ++ "=\"" ++ escape .labelValue label.2 ++ "\""

/-- The labels of a series, each key once: a repeated key keeps its first place and takes the last
value. -/
def distinct (labels : List Pair) : List Pair := Assoc.putAll labels

/-- The labels of a series as the page shows them. -/
def writeAll (labels : List Pair) : List String := (distinct labels).map write

/-- A text without backslashes reads back. -/
theorem unescape_escape_of_no_backslash (cs : List Char) (h : '\\' ∉ cs) :
    unescape (escapeFrom .labelValue false cs) = some cs := by
  induction cs with
  | nil => rfl
  | cons c rest ih =>
      have hc : c ≠ '\\' := fun e => h (e ▸ List.mem_cons_self)
      have ih := ih fun hm => h (List.mem_cons_of_mem _ hm)
      by_cases hn : c = '\n'
      · subst hn
        simp [escapeFrom, unescape, ih]
      · by_cases hq : c = '"'
        · subst hq
          simp [escapeFrom, unescape, ih]
        · simp only [escapeFrom, hn, hq, hc, false_and, if_false, flushed, Bool.false_eq_true,
            List.nil_append]
          rw [unescape]
          · simp [hc, hq, ih]
          all_goals
            intro more e
            exact absurd e hc

/-- Keys that are all different are kept in their order. -/
theorem distinct_of_nodup {labels : List Pair} (h : (labels.map Prod.fst).Nodup) :
    distinct labels = labels := Assoc.putAll_of_nodup h

end TrafficMeter.Metric.Label
