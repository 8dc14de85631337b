import TrafficMeter.Decimal.Numeral
import TrafficMeter.Text.Token

/-!
# Keys of settings

A key is a name followed by steps: a point and a name, or an index in brackets.  Names are made
of letters and digits of ASCII, spaces, underscores and hyphens.  Blanks may stand around an
index.

Main statement: `read?_name`, that a plain name is a key without steps.
-/

namespace TrafficMeter.Settings

/-- A step into a table or a list. -/
inductive Step where
  | name (n : String)
  /-- An index; a negative one counts from the end. -/
  | index (i : Int)
deriving DecidableEq, Repr

/-- A key. -/
structure Key where
  head : String
  steps : List Step := []
deriving DecidableEq, Repr

namespace Key

/-- The steps of a key from the root on. -/
def path (k : Key) : List Step := .name k.head :: k.steps

/-- Characters of names. -/
def isNameChar (c : Char) : Bool := c.isAlphanum || c == ' ' || c == '_' || c == '-'

/-- Reads an index without its brackets: an integer of 64 bits that has no plus sign. -/
def index? (cs : List Char) : Option Int :=
  let body := Text.trimBlanks cs
  if body.head? = some '+' then none else Decimal.signed64? body

/-- Reads steps.  Fuel of the length of the text is enough. -/
def steps? : Nat → List Char → Option (List Step)
  | _, [] => some []
  | 0, _ => none
  | fuel + 1, '.' :: cs =>
      let n := cs.takeWhile isNameChar
      if n = [] then none
      else (steps? fuel (cs.dropWhile isNameChar)).map (.name (String.ofList n) :: ·)
  | fuel + 1, '[' :: cs =>
      match cs.dropWhile (· != ']') with
      | ']' :: rest =>
          (index? (cs.takeWhile (· != ']'))).bind fun i => (steps? fuel rest).map (.index i :: ·)
      | _ => none
  | _, _ => none

/-- Reads a key. -/
def read? (s : String) : Option Key :=
  let cs := s.toList
  let head := cs.takeWhile isNameChar
  if head = [] then none
  else (steps? cs.length (cs.dropWhile isNameChar)).map fun steps => ⟨String.ofList head, steps⟩

/-- The key of a text; a text that is no key is a name as a whole. -/
def ofText (s : String) : Key := (read? s).getD ⟨s, []⟩

/-- A plain name is a key without steps. -/
theorem read?_name {s : String} (hne : s.toList ≠ []) (h : s.toList.all isNameChar = true) :
    read? s = some ⟨s, []⟩ := by
  have keep : ∀ cs : List Char, cs.all isNameChar = true →
      cs.takeWhile isNameChar = cs ∧ cs.dropWhile isNameChar = [] := by
    intro cs
    induction cs with
    | nil => simp
    | cons c rest ih =>
        intro hc
        simp only [List.all_cons, Bool.and_eq_true] at hc
        simp [hc.1, ih hc.2]
  simp [read?, (keep _ h).1, (keep _ h).2, hne, steps?]

end Key

end TrafficMeter.Settings
