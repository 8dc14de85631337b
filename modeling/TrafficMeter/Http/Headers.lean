import TrafficMeter.Text.Token
import TrafficMeter.Text.Bytes

/-!
# Header fields

Fields are kept in the order in which they came, names in lower case; a name may come several
times.  Main statement: `read_eq_ok`, that fields with good names and values are all kept.
-/

namespace TrafficMeter.Http

/-- The fields of a message head; names are in lower case. -/
abbrev Headers := List (String × String)

/-- Why a field is refused. -/
inductive FieldError where
  | badName
  | badValue
deriving DecidableEq, Repr

namespace Headers

/-- The most bytes of a field name. -/
def maxNameBytes : Nat := 65535

/-- Whether a text can be a field name. -/
def isName (name : String) : Bool := Text.isToken name && decide (name.utf8ByteSize ≤ maxNameBytes)

/-- Whether a text can be a field value. -/
def isValue (value : String) : Bool := value.toList.all Text.isFieldChar

/-- Checks a field and lowers the case of its name. -/
def field (name value : String) : Except FieldError (String × String) :=
  if !isName name then .error .badName
  else if !isValue value then .error .badValue
  else .ok (Text.lowerAscii name, value)

/-- Checks fields in their order. -/
def read : List (String × String) → Except FieldError Headers
  | [] => .ok []
  | (name, value) :: rest => do
      let first ← field name value
      let others ← read rest
      .ok (first :: others)

/-- The first value of a name. -/
def first? (hs : Headers) (name : String) : Option String := List.lookup name hs

/-- All values of a name. -/
def values (hs : Headers) (name : String) : List String :=
  (hs.filter fun h => h.1 == name).map Prod.snd

/-- The distinct names in the order in which they first came. -/
def names (hs : Headers) : List String := (hs.map Prod.fst).eraseDups

/-- The value of a field that is neither absent nor opaque. -/
def text? (hs : Headers) (name : String) : Option String :=
  (hs.first? name).filter Text.isFieldText

/-- Adds a field unless its name is there. -/
def addNew (hs : Headers) (name value : String) : Headers :=
  if (hs.first? name).isSome then hs else hs ++ [(name, value)]

/-- Fields with good names and values are all kept. -/
theorem read_eq_ok {hs : List (String × String)}
    (h : ∀ f ∈ hs, isName f.1 = true ∧ isValue f.2 = true) :
    read hs = .ok (hs.map fun f => (Text.lowerAscii f.1, f.2)) := by
  induction hs with
  | nil => rfl
  | cons f rest ih =>
      have hf := h f List.mem_cons_self
      have ih := ih fun g hg => h g (List.mem_cons_of_mem _ hg)
      simp [read, field, hf.1, hf.2, ih, bind, Except.bind]

end Headers

end TrafficMeter.Http
