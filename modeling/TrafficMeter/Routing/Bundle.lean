import TrafficMeter.Routing.Pattern

/-!
# Following patterns together

A path is looked up in a bundle of patterns by following all of them at once.  What they have in
common is passed first.  Where they part, the path's next byte has priority over captures: a
capture is tried only if no pattern goes on with the byte, or if what was tried in its place
fails.  A capture of a segment has its end at the next slash, and is not tried shorter.

A path that lacks nothing but a final slash, or has nothing but a slash too much, compared with a
pattern at hand, is not looked for any further: the search stops, and captures that were left
aside are not tried.

What this amounts to is stated in `TrafficMeter.Routing.Bundle.Lemmas`.
-/

namespace TrafficMeter.Routing

/-- Patterns that are followed together, each with what it stands for. -/
abbrev Bundle (α : Type) := List (List Piece × α)

/-- What a search comes to. -/
inductive Outcome (α : Type) where
  /-- A pattern matches, with what its captures take. -/
  | found (value : α) (captures : List (List UInt8))
  /-- Nothing was found, and captures that were left aside may be tried. -/
  | retry
  /-- Nothing was found, and nothing else is tried. -/
  | stop
deriving Repr

namespace Outcome

variable {α : Type}

/-- Nothing was found at a point where this much of the path is left. -/
def failure (path : List UInt8) : Outcome α := if path = [slash] then stop else retry

/-- Puts a capture before those of what was found. -/
def prepend (taken : List UInt8) : Outcome α → Outcome α
  | found v captures => found v (taken :: captures)
  | other => other

/-- Tries something else where that is allowed. -/
def orElse (first second : Outcome α) : Outcome α :=
  match first with
  | retry => second
  | other => other

/-- What was found. -/
def toOption : Outcome α → Option (α × List (List UInt8))
  | found v captures => some (v, captures)
  | _ => none

end Outcome

namespace Bundle

variable {α : Type}

/-- The bytes of a pattern up to its first capture. -/
def lead : List Piece → List UInt8
  | .byte b :: ps => b :: lead ps
  | _ => []

/-- The longest common beginning of two rows of bytes. -/
def common : List UInt8 → List UInt8 → List UInt8
  | a :: as, b :: bs => if a = b then a :: common as bs else []
  | _, _ => []

/-- The bytes with which all patterns begin. -/
def label : Bundle α → List UInt8
  | [] => []
  | [(ps, _)] => lead ps
  | (ps, _) :: more => common (lead ps) (label more)

/-- The patterns without their first pieces. -/
def after (n : Nat) (b : Bundle α) : Bundle α := b.map fun (ps, v) => (ps.drop n, v)

/-- The pattern that is at its end. -/
def ended? (b : Bundle α) : Option α := (b.find? (·.1.isEmpty)).map (·.2)

/-- The patterns that go on with a byte. -/
def branch (c : UInt8) (b : Bundle α) : Bundle α := b.filter (·.1.head? == some (.byte c))

/-- What follows the captures of a segment. -/
def segments (b : Bundle α) : Bundle α :=
  b.filterMap fun
    | (.segment _ :: ps, v) => some (ps, v)
    | _ => none

/-- The patterns that capture the rest. -/
def rests (b : Bundle α) : Bundle α := b.filter (·.1 matches [.rest _])

/-- The patterns that are not at their end. -/
def deeper (b : Bundle α) : Bundle α := b.filter (!·.1.isEmpty)

/-- Whether a slash is all that is left of some pattern and begins all others. -/
def endsInSlash (b : Bundle α) : Bool := b.label == [slash] && (b.after 1).ended?.isSome

/-- What is left of a row of bytes after a beginning. -/
def strip? : List UInt8 → List UInt8 → Option (List UInt8)
  | [], path => some path
  | _ :: _, [] => none
  | a :: as, c :: path => if a = c then strip? as path else none

/-- Goes on with a capture; `go` follows what comes after the capture of a segment. -/
def capture (go : Bundle α → List UInt8 → Outcome α) (b : Bundle α) (path : List UInt8) :
    Outcome α :=
  let segments := b.segments
  let taken := path.takeWhile (· != slash)
  let next := segments.deeper
  if segments.isEmpty then
    match b.rests with
    | (_, v) :: _ => .found v [path]
    | [] => .failure path
  else
    match path.dropWhile (· != slash), segments.ended? with
    | [], some v => .found v [taken]
    | [], none => if next.endsInSlash then .stop else .retry
    | more, ended =>
        if more = [slash] && next.label != [slash] && ended.isSome then .stop
        else (go next more).prepend taken

/-- Follows all patterns.  Fuel of the length of the path and two more is enough. -/
def search : Nat → Bundle α → List UInt8 → Outcome α
  | 0, _, _ => .retry
  | fuel + 1, b, path =>
      let node := b.after b.label.length
      match strip? b.label path, node.ended? with
      | none, ended =>
          if b.label = path ++ [slash] && ended.isSome then .stop else .failure path
      | some [], some v => .found v []
      | some [], none => if (node.branch slash).endsInSlash then .stop else .failure path
      | some (c :: rest), ended =>
          let next := node.branch c
          if next.isEmpty then capture (search fuel) node (c :: rest)
          else if c :: rest = [slash] && next.label != [slash] && ended.isSome then .stop
          else (search fuel next (c :: rest)).orElse (capture (search fuel) node (c :: rest))

/-- What a path finds, with what the captures take. -/
def find? (b : Bundle α) (path : List UInt8) : Option (α × List (List UInt8)) :=
  (search (path.length + 2) b path).toOption

end Bundle

end TrafficMeter.Routing
