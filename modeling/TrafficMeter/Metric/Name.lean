/-!
# Metric names

A metric name starts with a letter, an underscore or a colon and goes on with these and digits.
Names from elsewhere are mended on the page: what may not stand at its place becomes an
underscore.

Main statement: `sanitize_eq_self_iff`, that mending keeps exactly the empty name and the valid
ones.
-/

namespace TrafficMeter.Metric.Name

/-- A letter of ASCII, an underscore or a colon. -/
def isStart (c : Char) : Bool := c.isAlpha || c == '_' || c == ':'

/-- What may follow the start of a name. -/
def isRest (c : Char) : Bool := c.isAlphanum || c == '_' || c == ':'

/-- Whether the characters make a metric name. -/
def validChars : List Char → Bool
  | [] => false
  | c :: rest => isStart c && rest.all isRest

/-- Whether a text is a metric name. -/
def isValid (name : String) : Bool := validChars name.toList

/-- Replaces a character that fails a test. -/
def mend (ok : Char → Bool) (c : Char) : Char := if ok c then c else '_'

/-- Replaces what may not stand at its place. -/
def sanitizeChars : List Char → List Char
  | [] => []
  | c :: rest => mend isStart c :: rest.map (mend isRest)

/-- The name under which a series appears on the page. -/
def sanitize (name : String) : String := String.ofList (sanitizeChars name.toList)

/-- Joins a subsystem and a name; the empty subsystem adds nothing. -/
def qualify (subsystem name : String) : String :=
  if subsystem.isEmpty then name else subsystem ++ "_" ++ name

theorem mend_eq_self_iff {ok : Char → Bool} {c : Char} (h : ok '_' = true) :
    mend ok c = c ↔ ok c = true := by
  unfold mend
  split
  · simp_all
  · next hc =>
      refine ⟨fun e => ?_, fun e => absurd e hc⟩
      exact e ▸ h

theorem map_mend_eq_self_iff {ok : Char → Bool} (h : ok '_' = true) (cs : List Char) :
    cs.map (mend ok) = cs ↔ cs.all ok = true := by
  induction cs with
  | nil => simp
  | cons c rest ih => simp [mend_eq_self_iff h, ih]

/-- Mending keeps exactly the empty name and the valid ones. -/
theorem sanitizeChars_eq_self_iff (cs : List Char) :
    sanitizeChars cs = cs ↔ cs = [] ∨ validChars cs = true := by
  cases cs with
  | nil => simp [sanitizeChars]
  | cons c rest =>
      have hs : isStart '_' = true := by decide
      have hr : isRest '_' = true := by decide
      simp [sanitizeChars, validChars, mend_eq_self_iff hs, map_mend_eq_self_iff hr]

/-- Mending keeps exactly the empty name and the valid ones. -/
theorem sanitize_eq_self_iff (name : String) :
    sanitize name = name ↔ name = "" ∨ isValid name = true := by
  have h : sanitize name = name ↔ sanitizeChars name.toList = name.toList := by
    constructor
    · intro e
      have back : (sanitize name).toList = sanitizeChars name.toList := String.toList_ofList
      rw [← back, e]
    · intro e
      rw [sanitize, e, String.ofList_toList]
  rw [h, sanitizeChars_eq_self_iff, isValid, String.toList_eq_nil_iff]

end TrafficMeter.Metric.Name
