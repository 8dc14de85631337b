import TrafficMeter.Assoc
import TrafficMeter.Settings.Node
import TrafficMeter.Text.Split

/-!
# Settings from the environment

A variable counts if its name starts with `app__` in any case.  What follows is a key in lower
case, with a point for each pair of underscores.  A later variable with the same key wins.  The
list of quantiles is cut at commas unless its text is a scalar of another kind.  The variables make
a tree by themselves, one after the other, and this tree is laid over the defaults.  An index below
the start of its list makes them crash.

Main statement: `keyText?_eq_none_iff`, which variables do not count.
-/

namespace TrafficMeter.Settings

/-- Variables with their values, each name once. -/
abbrev Environment := List (String × String)

namespace Environment

/-- Lower-case form of a character of a name.  Outside ASCII only the Kelvin sign matters, whose
lower-case form is a letter of ASCII. -/
def lower (c : Char) : Char := if c = '\u212a' then 'k' else c.toLower

/-- What the names of variables that count start with. -/
def start : List Char := "app__".toList

/-- Puts a point for each pair of underscores. -/
def points : List Char → List Char
  | '_' :: '_' :: rest => '.' :: points rest
  | c :: rest => c :: points rest
  | [] => []

/-- The text of a variable's key, if the variable counts. -/
def keyText? (name : String) : Option String :=
  let cs := name.toList.map lower
  if start.isPrefixOf cs then some (String.ofList (points (cs.drop start.length))) else none

/-- The key whose text may be a list. -/
def listKey : String := "metrics.quantiles"

/-- The value of a variable. -/
def value (key text : String) : Node :=
  match Scalar.read text with
  | .text s =>
      if key = listKey then
        .list ((Text.split ',' s.toList).map fun part => .scalar (.text (String.ofList part)))
      else .scalar (.text s)
  | s => .scalar s

/-- The variables that count, by the texts of their keys. -/
def entries (env : Environment) : List (String × String) :=
  Assoc.putAll (env.filterMap fun (name, text) => (keyText? name).map fun key => (key, text))

/-- The tree that the variables make by themselves. -/
def tree (env : Environment) : Node :=
  env.entries.foldl (fun n (key, text) => n.set (Key.ofText key) (value key text)) (.table [])

/-- Whether setting variables in a tree one after the other meets an index below the start of its
list. -/
def undershootsFrom (n : Node) : List (String × String) → Bool
  | [] => false
  | (key, text) :: rest =>
      n.undershoots (Key.ofText key).path ||
        undershootsFrom (n.set (Key.ofText key) (value key text)) rest

/-- Whether the variables cannot make a tree. -/
def undershoots (env : Environment) : Bool := undershootsFrom (.table []) env.entries

/-- Lays all variables that count over defaults. -/
def applyTo (defaults : Node) (env : Environment) : Node := defaults.overlay env.tree

/-- Which variables do not count. -/
theorem keyText?_eq_none_iff (name : String) :
    keyText? name = none ↔ ¬ start <+: name.toList.map lower := by
  unfold keyText?
  simp [← List.isPrefixOf_iff_prefix]

end Environment

end TrafficMeter.Settings
