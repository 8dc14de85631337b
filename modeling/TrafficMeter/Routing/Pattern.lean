import TrafficMeter.Text.Bytes

/-!
# Route patterns

A pattern is matched against the bytes of a request's path.  A colon, anywhere in a segment,
starts a capture that takes the rest of that segment; a star starts a capture of everything that
is left.  All other characters stand for their bytes.

Main statements: `match?_plain`, that a pattern without captures matches its own bytes and nothing
else, and `read_of_no_mark`, that a text without marks is such a pattern.
-/

namespace TrafficMeter.Routing

/-- A piece of a pattern. -/
inductive Piece where
  | byte (b : UInt8)
  /-- Takes the rest of a segment. -/
  | segment (name : String)
  /-- Takes the rest of the path. -/
  | rest (name : String)
deriving DecidableEq, Repr

/-- Why a text is no pattern, or cannot stand beside the patterns there are. -/
inductive PatternError where
  | crowdedSegment
  | unnamed
  | tooManyCaptures
  | misplacedRest
  | conflict (other : String)
deriving DecidableEq, Repr

/-- The text of a failure. -/
def PatternError.message : PatternError → String
  | crowdedSegment => "only one parameter is allowed per path segment"
  | unnamed => "parameters must be registered with a name"
  | tooManyCaptures => "too many route parameters"
  | misplacedRest => "catch-all parameters are only allowed at the end of a route"
  | conflict other => "insertion failed due to conflict with previously registered route: " ++ other

/-- The byte that ends segments. -/
def slash : UInt8 := 0x2f

namespace Piece

/-- Whether a character starts a capture. -/
def isMark (c : Char) : Bool := c == ':' || c == '*'

/-- The most captures of segments in one pattern. -/
def maxSegments : Nat := 25

/-- Reads the pieces of a pattern that may have so many more captures of segments.  Fuel of the
length of the text is enough. -/
def readFrom : Nat → Nat → List Char → Except PatternError (List Piece)
  | 0, _, _ => .ok []
  | _ + 1, _, [] => .ok []
  | fuel + 1, room, c :: cs =>
      if isMark c then
        let name := cs.takeWhile (· != '/')
        let others := cs.dropWhile (· != '/')
        if name.any isMark then .error .crowdedSegment
        else if name = [] then .error .unnamed
        else if c = '*' then (readFrom fuel room others).map (rest (String.ofList name) :: ·)
        else
          match room with
          | 0 => .error .tooManyCaptures
          | room + 1 => (readFrom fuel room others).map (segment (String.ofList name) :: ·)
      else (readFrom fuel room cs).map ((String.utf8EncodeChar c).map byte ++ ·)

/-- Reads the pieces of a pattern. -/
def read (pattern : List Char) : Except PatternError (List Piece) :=
  readFrom pattern.length maxSegments pattern

/-- What the captures of a pattern take of a path that it matches.  The capture of a segment may
take nothing if a slash follows; the capture of the rest takes at least one byte. -/
def match? : List Piece → List UInt8 → Option (List (List UInt8))
  | [], [] => some []
  | byte p :: ps, c :: cs => if p = c then match? ps cs else none
  | segment _ :: ps, c :: cs =>
      (match? ps ((c :: cs).dropWhile (· != slash))).map ((c :: cs).takeWhile (· != slash) :: ·)
  | [rest _], c :: cs => some [c :: cs]
  | _, _ => none

/-- The names of the captures. -/
def captureNames : List Piece → List String
  | [] => []
  | byte _ :: ps => captureNames ps
  | segment name :: ps | rest name :: ps => name :: captureNames ps

/-- The bytes of a piece as it is written. -/
def written : Piece → List UInt8
  | byte b => [b]
  | segment name => 0x3a :: Text.bytes name
  | rest name => 0x2a :: Text.bytes name

/-- Pieces that stand for bytes. -/
def plain (bs : List UInt8) : List Piece := bs.map byte

/-- A pattern without captures matches its own bytes and nothing else. -/
theorem match?_plain (bs path : List UInt8) :
    match? (plain bs) path = if path = bs then some [] else none := by
  induction bs generalizing path with
  | nil => cases path <;> simp [plain, match?]
  | cons b bs ih =>
      cases path with
      | nil => simp [plain, match?]
      | cons c path =>
          simp only [plain, List.map_cons, match?] at ih ⊢
          rw [ih]
          by_cases h : b = c <;> simp [h, eq_comm]

/-- A text without marks is read as the pieces of its bytes. -/
theorem read_of_no_mark {text : String} (h : text.toList.any isMark = false) :
    read text.toList = .ok (plain (Text.bytes text)) := by
  rw [Text.bytes_eq_flatMap]
  unfold read
  generalize maxSegments = room
  generalize text.toList = cs at h ⊢
  induction cs with
  | nil => rfl
  | cons c rest ih =>
      simp only [List.any_cons, Bool.or_eq_false_iff] at h
      simp [readFrom, h.1, ih h.2, plain, Except.map]

end Piece

end TrafficMeter.Routing
